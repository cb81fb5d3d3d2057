/-
Requests outliving their generation.

A registered request leaves the active table only in the locked removal block
its own call runs. Every way out of the loop runs that block, except one:
cancellation, which the `except Exception` around the engine call does not
catch. A call cancelled while its request is registered leaves it behind.
-/

import Dressage.Proxy.GenerationController

namespace Dressage.GenerationController

open Lib Generation OrderedDict Controller

/-- No request outlives its call: neither in the table, nor for a waiting pause, nor
for a version synchronization. -/
structure NoLeaks (controller : Controller) : Prop where
  ended : ∀ callId call, controller.calls.get? callId = some call → call.pc.ended = true →
    ∀ requestId record, controller.requests.get? requestId = some record →
      record.owner = callId → requestId ∉ controller.active ∧ record.quiescedEvent = true
  awaited : ∀ snapshot ∈ controller.pauses, ∀ requestId ∈ snapshot, ∀ record,
    controller.requests.get? requestId = some record → record.quiescedEvent = false →
      ∃ call, controller.calls.get? record.owner = some call ∧ call.pc.ended = false
  busy : ∀ requestId ∈ controller.active, ∃ record call,
    controller.requests.get? requestId = some record ∧
      controller.calls.get? record.owner = some call ∧ call.pc.ended = false

def Unregistered (controller : Controller) (action : Action) : Prop :=
  ∀ callId, action = .cancel callId →
    ∀ call, controller.calls.get? callId = some call → call.pc.holds = none

structure Held (controller : Controller) : Prop where
  owned : ∀ requestId record, controller.requests.get? requestId = some record →
    (record.quiescedEvent = true ∧ requestId ∉ controller.active) ∨
    (requestId ∈ controller.active ∧ ∃ call,
      controller.calls.get? record.owner = some call ∧ call.pc.holds = some requestId)
  holder : ∀ callId call requestId, controller.calls.get? callId = some call →
    call.pc.holds = some requestId → ∃ record,
      controller.requests.get? requestId = some record ∧ record.owner = callId ∧
        requestId ∈ controller.active
  listed : ∀ requestId ∈ controller.active, ∃ record,
    controller.requests.get? requestId = some record
  issued : ∀ requestId record, controller.requests.get? requestId = some record →
    requestId < controller.nextRequestId
  entered : ∀ callId call, controller.calls.get? callId = some call → callId < controller.nextCallId

theorem initial_held (partialRollout : Bool) : Held (initial partialRollout) := by
  constructor
  · intro requestId record found
    cases found
  · intro callId call requestId found
    cases found
  · intro requestId member
    cases member
  · intro requestId record found
    cases found
  · intro callId call found
    cases found

theorem live_of_holds {pc : Pc} {requestId : Nat} (holds : pc.holds = some requestId) :
    pc.ended = false := by
  cases pc with
  | generating id => rfl
  | leaving id exit => rfl
  | waitingResume => cases holds
  | waitingLock => cases holds
  | suspended => cases holds
  | returned result => cases holds
  | raised error => cases holds
  | cancelled => cases holds

theorem Held.noLeaks {controller : Controller} (held : Held controller) : NoLeaks controller := by
  constructor
  · intro callId call found ended requestId record known owner
    rcases held.owned requestId record known with ⟨quiesced, gone⟩ | ⟨_, other, same, holds⟩
    · exact ⟨gone, quiesced⟩
    · rw [owner, found, Option.some_inj] at same
      subst other
      rw [live_of_holds holds] at ended
      cases ended
  · intro _snapshot _inPauses requestId _inSnapshot record known unquiesced
    rcases held.owned requestId record known with ⟨quiesced, _⟩ | ⟨_, call, found, holds⟩
    · rw [quiesced] at unquiesced
      cases unquiesced
    · exact ⟨call, found, live_of_holds holds⟩
  · intro requestId member
    obtain ⟨record, known⟩ := held.listed requestId member
    rcases held.owned requestId record known with ⟨_, gone⟩ | ⟨_, call, found, holds⟩
    · exact absurd member gone
    · exact ⟨record, call, known, found, live_of_holds holds⟩

section Updates

variable {controller : Controller}

variable {callId requestId : Nat} {after call : Call}

section

variable (held : Held controller)

include held

theorem Held.setCall {before : Call} (found : controller.calls.get? callId = some before)
    (same : after.pc.holds = before.pc.holds) :
    Held (controller.setCall callId after) := by
  have lookup : ∀ other, (controller.setCall callId after).calls.get? other =
      if other = callId then some after else controller.calls.get? other :=
    fun other => get?_set controller.calls callId other after
  refine
    { held with
      owned := ?_
      holder := ?_
      entered := ?_ }
  · intro requestId record known
    rcases held.owned requestId record known with gone | ⟨member, call, current, holds⟩
    · exact .inl gone
    · refine .inr ⟨member, ?_⟩
      by_cases owner : record.owner = callId
      · rw [owner, found, Option.some_inj] at current
        subst call
        exact ⟨after, by rw [lookup, if_pos owner], same.trans holds⟩
      · exact ⟨call, by rw [lookup, if_neg owner]; exact current, holds⟩
  · intro other call requestId current holds
    rw [lookup] at current
    split at current
    · rename_i isCall
      subst other
      cases current
      exact held.holder callId before requestId found (same ▸ holds)
    · exact held.holder other call requestId current holds
  · intro other call current
    rw [lookup] at current
    split at current
    · rename_i isCall
      subst other
      exact held.entered callId before found
    · exact held.entered other call current

theorem Held.modifyRequest (requestId : Nat) {change : ActiveGeneration → ActiveGeneration}
    (sameOwner : ∀ record, (change record).owner = record.owner)
    (sameEvent : ∀ record, (change record).quiescedEvent = record.quiescedEvent) :
    Held (controller.modifyRequest requestId change) := by
  unfold Controller.modifyRequest
  cases known : controller.requests.get? requestId with
  | none => exact held
  | some record =>
    have lookup : ∀ other, (controller.requests.set requestId (change record)).get? other =
        if other = requestId then some (change record) else controller.requests.get? other :=
      fun other => get?_set controller.requests requestId other _
    -- A changed record answers every question as the old one did.
    have back : ∀ other current,
        (controller.requests.set requestId (change record)).get? other = some current →
        ∃ old, controller.requests.get? other = some old ∧ current.owner = old.owner ∧
          current.quiescedEvent = old.quiescedEvent := by
      intro other current found
      rw [lookup] at found
      split at found
      · rename_i isRequest
        subst other
        cases found
        exact ⟨record, known, sameOwner record, sameEvent record⟩
      · exact ⟨current, found, rfl, rfl⟩
    have forth : ∀ other old, controller.requests.get? other = some old → ∃ current,
        (controller.requests.set requestId (change record)).get? other = some current ∧
          current.owner = old.owner := by
      intro other old found
      rw [lookup]
      split
      · rename_i isRequest
        subst other
        rw [known, Option.some_inj] at found
        subst old
        exact ⟨change record, rfl, sameOwner record⟩
      · exact ⟨old, found, rfl⟩
    refine
      { owned := ?_
        holder := ?_
        listed := ?_
        issued := ?_
        entered := held.entered }
    · intro other current found
      obtain ⟨old, oldFound, owner, event⟩ := back other current found
      rw [owner, event]
      exact held.owned other old oldFound
    · intro callId call other found holds
      obtain ⟨old, oldFound, owner, member⟩ := held.holder callId call other found holds
      obtain ⟨current, currentFound, sameAsOld⟩ := forth other old oldFound
      exact ⟨current, currentFound, sameAsOld.trans owner, member⟩
    · intro other member
      obtain ⟨old, oldFound⟩ := held.listed other member
      obtain ⟨current, currentFound, _⟩ := forth other old oldFound
      exact ⟨current, currentFound⟩
    · intro other current found
      obtain ⟨old, oldFound, _⟩ := back other current found
      exact held.issued other old oldFound

theorem Held.modifyAll (ids : List Nat) {change : ActiveGeneration → ActiveGeneration}
    (sameOwner : ∀ record, (change record).owner = record.owner)
    (sameEvent : ∀ record, (change record).quiescedEvent = record.quiescedEvent) :
    Held (controller.modifyAll ids change) := by
  unfold Controller.modifyAll
  induction ids generalizing controller with
  | nil => exact held
  | cons requestId rest ih => exact ih (held.modifyRequest requestId sameOwner sameEvent)

theorem Held.congr {other : Controller} (active : other.active = controller.active)
    (requests : other.requests = controller.requests) (calls : other.calls = controller.calls)
    (nextRequestId : other.nextRequestId = controller.nextRequestId)
    (nextCallId : other.nextCallId = controller.nextCallId) : Held other := by
  constructor
  · rw [requests, active, calls]
    exact held.owned
  · rw [requests, calls, active]
    exact held.holder
  · rw [requests, active]
    exact held.listed
  · rw [requests, nextRequestId]
    exact held.issued
  · rw [calls, nextCallId]
    exact held.entered

theorem enter_held (request : Request) : Held (controller.enter request) := by
  have fresh : controller.calls.get? controller.nextCallId = none := by
    cases found : controller.calls.get? controller.nextCallId with
    | none => rfl
    | some call => exact absurd (held.entered _ call found) (Nat.lt_irrefl _)
  have lookup : ∀ other, (controller.enter request).calls.get? other =
      if other = controller.nextCallId then _ else controller.calls.get? other :=
    fun other => get?_set controller.calls controller.nextCallId other _
  refine
    { held with
      owned := ?_
      holder := ?_
      entered := ?_ }
  · intro requestId record known
    rcases held.owned requestId record known with gone | ⟨member, call, current, holds⟩
    · exact .inl gone
    · refine .inr ⟨member, call, ?_, holds⟩
      rw [lookup, if_neg]
      · exact current
      · intro isNew
        rw [isNew, fresh] at current
        cases current
  · intro callId call requestId current holds
    rw [lookup] at current
    split at current
    · cases current
      simp only at holds
      split at holds
      · cases holds
      · cases holds
    · exact held.holder callId call requestId current holds
  · intro callId call current
    rw [lookup] at current
    change callId < controller.nextCallId + 1
    split at current
    · rename_i isNew
      omega
    · have known := held.entered callId call current
      omega

section

variable (found : controller.calls.get? callId = some call)
include found

theorem Held.update {nextRequestId : Nat} {record : ActiveGeneration} {active : List Nat}
    (owner : record.owner = callId)
    (onlyHeld : ∀ other, call.pc.holds = some other → other = requestId)
    (onlyOwner : ∀ old, controller.requests.get? requestId = some old → old.owner = callId)
    (settled : (record.quiescedEvent = true ∧ requestId ∉ active ∧ after.pc.holds = none) ∨
      (requestId ∈ active ∧ after.pc.holds = some requestId))
    (others : ∀ other, other ≠ requestId → (other ∈ active ↔ other ∈ controller.active))
    (known : requestId < nextRequestId) (grows : controller.nextRequestId ≤ nextRequestId) :
    Held
      { controller with
        active := active
        requests := controller.requests.set requestId record
        nextRequestId := nextRequestId
        calls := controller.calls.set callId after } := by
  have callAt : ∀ other, (controller.calls.set callId after).get? other =
      if other = callId then some after else controller.calls.get? other :=
    fun other => get?_set controller.calls callId other after
  have requestAt : ∀ other, (controller.requests.set requestId record).get? other =
      if other = requestId then some record else controller.requests.get? other :=
    fun other => get?_set controller.requests requestId other record
  constructor
  · intro other otherRecord otherKnown
    rw [requestAt] at otherKnown
    split at otherKnown
    · rename_i isRequest
      subst other
      cases otherKnown
      rcases settled with ⟨quiesced, gone, _⟩ | ⟨member, holds⟩
      · exact .inl ⟨quiesced, gone⟩
      · exact .inr ⟨member, after, by rw [callAt, if_pos owner], holds⟩
    · rename_i isOther
      rcases held.owned other otherRecord otherKnown with ⟨quiesced, gone⟩ | ⟨member, holder⟩
      · exact .inl ⟨quiesced, fun listed => gone ((others other isOther).mp listed)⟩
      · obtain ⟨otherCall, current, otherHolds⟩ := holder
        refine .inr ⟨(others other isOther).mpr member, otherCall, ?_, otherHolds⟩
        rw [callAt, if_neg]
        · exact current
        · intro isCall
          rw [isCall, found, Option.some_inj] at current
          subst otherCall
          exact isOther (onlyHeld other otherHolds)
  · intro other otherCall otherId current otherHolds
    rw [callAt] at current
    split at current
    · rename_i isCall
      subst other
      cases current
      rcases settled with ⟨_, _, freed⟩ | ⟨member, holds⟩
      · rw [freed] at otherHolds
        cases otherHolds
      · rw [holds, Option.some_inj] at otherHolds
        subst otherId
        exact ⟨record, by rw [requestAt, if_pos rfl], owner, member⟩
    · rename_i isOther
      obtain ⟨otherRecord, otherKnown, otherOwner, member⟩ :=
        held.holder other otherCall otherId current otherHolds
      have isApart : otherId ≠ requestId := by
        intro isRequest
        rw [isRequest] at otherKnown
        exact isOther (otherOwner.symm.trans (onlyOwner otherRecord otherKnown))
      exact ⟨otherRecord, by rw [requestAt, if_neg isApart]; exact otherKnown, otherOwner,
        (others otherId isApart).mpr member⟩
  · intro other member
    rw [requestAt]
    split
    · exact ⟨record, rfl⟩
    · rename_i isOther
      exact held.listed other ((others other isOther).mp member)
  · intro other otherRecord otherKnown
    rw [requestAt] at otherKnown
    split at otherKnown
    · rename_i isRequest
      rw [isRequest]
      exact known
    · exact (held.issued other otherRecord otherKnown).trans_le grows
  · intro other otherCall current
    rw [callAt] at current
    split at current
    · rename_i isCall
      rw [isCall]
      exact held.entered callId call found
    · exact held.entered other otherCall current

theorem register_held (waiting : call.pc.holds = none) :
    Held (controller.register callId call) := by
  unfold register
  split
  · exact held.setCall found (by rw [waiting]; rfl)
  · split
    · exact held.setCall found (by rw [waiting]; rfl)
    · apply held.update found rfl
      · intro other holds
        rw [waiting] at holds
        cases holds
      · intro old known
        exact absurd (held.issued _ old known) (Nat.lt_irrefl _)
      · exact .inr ⟨List.mem_append_right _ (List.mem_singleton.mpr rfl), rfl⟩
      · intro other isOld
        rw [List.mem_append, List.mem_singleton]
        exact or_iff_left isOld
      · exact Nat.lt_succ_self _
      · exact Nat.le_succ _

theorem remove_held (holds : call.pc.holds = some requestId) (exit : Exit)
    (freed : after.pc.holds = none) :
    Held ((controller.remove requestId exit).setCall callId after) := by
  obtain ⟨record, known, owner, _member⟩ := held.holder callId call requestId found holds
  have removed : (controller.remove requestId exit).setCall callId after =
      { controller with
        requests := controller.requests.set requestId (quiesce exit record)
        active := controller.active.filter (fun other => other ≠ requestId)
        calls := controller.calls.set callId after } := by
    unfold remove modifyRequest setCall
    rw [known]
  have mem_rest : ∀ other, other ∈ controller.active.filter (fun other => other ≠ requestId) ↔
      other ∈ controller.active ∧ other ≠ requestId := by
    intro other
    rw [List.mem_filter, decide_eq_true_eq]
  have stillOwned : (quiesce exit record).owner = callId := owner
  rw [removed]
  apply held.update found stillOwned
  · intro other otherHolds
    rw [holds, Option.some_inj] at otherHolds
    exact otherHolds.symm
  · intro old oldKnown
    rw [known, Option.some_inj] at oldKnown
    rw [← oldKnown]
    exact owner
  · exact .inl ⟨rfl, fun member => ((mem_rest requestId).mp member).2 rfl, freed⟩
  · intro other isOther
    rw [mem_rest]
    exact and_iff_left isOther
  · exact held.issued requestId record known
  · exact Nat.le_refl _

theorem leave_held {requestId : Nat} {exit : Exit} (leaving : call.pc = .leaving requestId exit) :
    Held (controller.leave callId call requestId exit) := by
  have holds : call.pc.holds = some requestId := by
    rw [leaving]
    rfl
  unfold leave
  cases exit with
  | raises error => exact remove_held held found holds _ rfl
  | chunk preempted =>
    simp only
    split
    · exact remove_held held found holds _ rfl
    · exact remove_held held found holds _ rfl
    · refine (remove_held held found holds (.chunk preempted) ?_).congr rfl rfl rfl rfl rfl
      rfl

theorem stitch_held (generating : call.pc = .generating requestId) (response : SGLangResponse)
    (forced : Bool) :
    Held (controller.stitch callId call requestId response forced) := by
  unfold stitch
  split
  · exact held.setCall found (by rw [generating]; rfl)
  · have moved : Held (controller.setCall callId
        { call with
          progress := absorb call.request response (forced || isPreempted response) call.progress
          pc := .leaving requestId (.chunk (forced || isPreempted response)) }) :=
      held.setCall found (by rw [generating]; rfl)
    exact moved.congr rfl rfl rfl rfl rfl

theorem proceed_held (waiting : call.pc = .waitingResume) :
    Held (controller.proceed callId call) := by
  unfold proceed
  split
  · split <;> exact held.setCall found (by rw [waiting]; rfl)
  · exact held

theorem engineRaises_held (generating : call.pc = .generating requestId) (message : String) :
    Held (controller.engineRaises callId call requestId message) := by
  unfold engineRaises
  split
  · exact held.setCall found (by rw [generating]; rfl)
  · split
    · exact stitch_held held found generating interruptedResponse true
    · exact held.setCall found (by rw [generating]; rfl)

theorem wake_held (suspended : call.pc = .suspended) : Held (controller.wake callId call) := by
  have counted : Held
      { controller with suspendedGenerations := controller.suspendedGenerations - 1 } :=
    held.congr rfl rfl rfl rfl rfl
  unfold wake
  split
  · simp only
    split
    · exact counted.setCall found (by rw [suspended]; rfl)
    · split <;> exact counted.setCall found (by rw [suspended]; rfl)
  · exact held

theorem cancel_held (free : call.pc.holds = none) : Held (controller.cancel callId call) := by
  have ended : Held (controller.setCall callId { call with pc := .cancelled }) :=
    held.setCall found (by rw [free]; rfl)
  unfold cancel
  split
  · exact ended.congr rfl rfl rfl rfl rfl
  · exact ended

end

theorem Held.markPreempting (ids : List Nat) : Held (controller.modifyAll ids markPreempting) :=
  held.modifyAll ids (fun _ => rfl) (fun _ => rfl)

theorem step_held (action : Action) (unregistered : Unregistered controller action) :
    Held (controller.step action) := by
  have effect := step_effect controller action
  generalize controller.step action = after at effect ⊢
  cases effect with
  | idle => exact held
  | enters request => exact enter_held held request
  | proceeds callId call found waiting => exact proceed_held held found waiting
  | registers callId call found waiting => exact register_held held found (by rw [waiting]; rfl)
  | responds callId call requestId response found generating =>
    exact stitch_held held found generating response _
  | fails callId call requestId message found generating =>
    exact engineRaises_held held found generating message
  | leaves callId call requestId exit found leaving => exact leave_held held found leaving
  | wakes callId call found suspended => exact wake_held held found suspended
  | cancels callId call found live =>
    exact cancel_held held found (unregistered callId rfl call found)
  | pauses sessionId instanceId =>
    exact (held.markPreempting (controller.selected sessionId instanceId)).congr rfl rfl rfl rfl rfl
  | abortSucceeded requestId | abortFailed requestId =>
    exact held.modifyRequest requestId (fun _ => rfl) (fun _ => rfl)
  | controls _ after same =>
    exact held.congr same.active same.requests same.calls same.nextRequestId same.nextCallId
  | shutsDown => exact (held.markPreempting controller.active).congr rfl rfl rfl rfl rfl

theorem cancel_leaks (found : controller.calls.get? callId = some call)
    (holds : call.pc.holds = some requestId) :
    ¬ NoLeaks (controller.step (.cancel callId)) := by
  obtain ⟨record, known, owner, member⟩ := held.holder callId call requestId found holds
  have cancelled : controller.step (.cancel callId) =
      controller.setCall callId { call with pc := .cancelled } := by
    simp only [step, found, live_of_holds holds, Bool.false_eq_true, if_false]
    unfold cancel
    split
    · rename_i suspended
      rw [suspended] at holds
      cases holds
    · rfl
  rw [cancelled]
  intro promise
  have settled := promise.ended callId { call with pc := .cancelled }
    (get?_set_self controller.calls callId _) rfl requestId record known owner
  exact settled.1 member

end

end Updates

/-- A run leaks no request at any moment exactly when no call is cancelled between the
registration of a request and its removal. -/
theorem no_leaks_iff_unregistered (partialRollout : Bool) (actions : List Action) :
    (∀ past, past <+: actions →
      NoLeaks (Runs.run step (initial partialRollout) past)) ↔
      Runs.Admits step Unregistered (initial partialRollout) actions := by
  constructor
  · have started : ∀ controller, Held controller →
        (∀ past, past <+: actions → NoLeaks (Runs.run step controller past)) →
        Runs.Admits step Unregistered controller actions := by
      induction actions with
      | nil =>
        intro _controller _held _promise
        trivial
      | cons action rest ih =>
        intro controller held promise
        have unregistered : Unregistered controller action := by
          intro callId isCancel call found
          subst action
          cases holds : call.pc.holds with
          | none => rfl
          | some requestId =>
            have first : [Action.cancel callId] <+: .cancel callId :: rest :=
              ⟨rest, rfl⟩
            exact absurd (promise _ first) (cancel_leaks held found holds)
        refine ⟨unregistered, ih (controller.step action) (step_held held action unregistered) ?_⟩
        intro past early
        exact promise (action :: past) (List.cons_prefix_cons.mpr ⟨rfl, early⟩)
    exact started _ (initial_held partialRollout)
  · intro admitted past early
    have preserved : ∀ controller action, Held controller → Unregistered controller action →
        Held (step controller action) := fun _ action held unregistered =>
      step_held held action unregistered
    exact (Runs.prefix_invariant preserved (initial_held partialRollout) admitted early).noLeaks

def shortRequest : Request :=
  { inputIds := [1, 2, 3]
    maxNewTokens := 8
    sessionId := some "session"
    instanceId := some "instance"
    turnId := none
    expectedVersion := none
    expectedEpoch := none
    logprobStartLen := -1
    contextWindow := none }

def disconnectedRun : List Action := [.call shortRequest, .proceed 0, .register 0, .cancel 0]

theorem disconnect_leaks :
    ¬ ∀ past, past <+: disconnectedRun →
      NoLeaks (Runs.run step (initial true) past) := by
  intro promise
  have leak := (promise disconnectedRun (List.prefix_refl _)).ended 0
    { request := shortRequest
      progress := stampEpoch (Progress.initial shortRequest) 0
      pc := .cancelled } (by decide) rfl 0 (activeOf 0 shortRequest) (by decide) rfl
  exact leak.1 (by decide)

end Dressage.GenerationController

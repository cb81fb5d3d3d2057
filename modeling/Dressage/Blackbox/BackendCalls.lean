/-
One backend call at a time, attributed to its turn.

The turn scope of the proxy is the running call's as long as no abort of the adapter is under
way. A cancelled turn whose call still runs breaks all of it: the record is settled, the next
turn is admitted, and the leftover call goes on beside it.
-/

import Dressage.Blackbox.TurnSettlement

namespace Dressage.Blackbox

open Lib OrderedDict

variable {Message : Type}

def PhaseCall (call : BackendCall Message) : TurnPhase Message → Prop
  | .expiring => call.running = false
  | .committing (.commit _) => call.result.isSome = true
  | .committing (.unknown _ _) => call.running = false
  | _ => True

structure CallFits (state : State Message) (turnId : TurnId) (call : BackendCall Message)
    (record : TurnRecord Message) : Prop where
  started : record.status ≠ .queued
  running : call.running = true → record.status = .inflight
  leftover : call.result = none → record.status = .inflight ∨ state.session.state ≠ .active
  phase : ∀ {task}, state.tasks.get? turnId = some task → PhaseCall call task.phase
  scope : state.tasks.get? turnId = some ⟨.calling, false⟩ → record.status = .inflight →
    call.running = true → call.opened = true → state.scope = some turnId

structure Attributed (state : State Message) : Prop where
  coherent : Coherent False state
  recorded : ∀ {turnId call}, state.calls.get? turnId = some call →
    ∃ record, state.session.turnLedger.get? turnId = some record
  call : ∀ {turnId call record}, state.calls.get? turnId = some call →
    state.session.turnLedger.get? turnId = some record → CallFits state turnId call record
  idle : ∀ {id request checked turnId call},
    state.requests.get? id = some (.submit request (.checking checked)) →
    state.calls.get? turnId = some call → call.result ≠ none
  alone : ∀ {active record turnId call},
    state.session.turnLedger.get? active = some record → record.status.isActive = true →
    state.calls.get? turnId = some call → call.result = none → turnId = active
  aborting : ∀ {id request turnId task record}, state.requests.get? id = some request →
    request.aborts = true → state.tasks.get? turnId = some task → task.phase = .calling →
    state.session.turnLedger.get? turnId = some record → record.status = .inflight →
    task.cancelRequested = true

theorem isActive_of_inflight {record : TurnRecord Message} (inflight : record.status = .inflight) :
    record.status.isActive = true := by
  rw [inflight]
  rfl

variable {before after state : State Message}

theorem CallFits.frame {turnId : TurnId} {call : BackendCall Message} {record : TurnRecord Message}
    (fits : CallFits before turnId call record)
    (task : after.tasks.get? turnId = before.tasks.get? turnId)
    (active : after.session.state = .active → before.session.state = .active)
    (scope : before.tasks.get? turnId = some ⟨.calling, false⟩ → record.status = .inflight →
      before.scope = some turnId → after.scope = some turnId) :
    CallFits after turnId call record := by
  refine
    { fits with
      leftover := ?_
      phase := ?_
      scope := ?_ }
  · intro unfinished
    rcases fits.leftover unfinished with inflight | inactive
    · exact .inl inflight
    · exact .inr (fun isActive => inactive (active isActive))
  · rw [task]
    exact fits.phase
  · intro calling inflight running opened
    rw [task] at calling
    exact scope calling inflight (fits.scope calling inflight running opened)

theorem finalizeInterruptedTurn_active (state : State Message) (turnId : TurnId) :
    (state.finalizeInterruptedTurn turnId).session.state = .active →
      state.session.state = .active := by
  unfold State.finalizeInterruptedTurn
  split
  · exact id
  · split
    · exact id
    · split
      · exact fun active => absurd active (State.desync_not_active _)
      · exact id

theorem finalizeInterruptedTurn_desyncs {turnId : TurnId} (shutdown : state.shutdownStarted = true)
    (unsettled : ¬ Terminal state turnId) :
    (state.finalizeInterruptedTurn turnId).session.state ≠ .active := by
  unfold State.finalizeInterruptedTurn
  split
  · next absent =>
      exact absurd (fun record found => by cases absent.symm.trans found) unsettled
  · next record found =>
      split
      · next settled =>
          refine absurd (fun other otherFound => ?_) unsettled
          cases found.symm.trans otherFound
          exact settled
      · exact State.desync_not_active _

namespace Attributed

variable {state before after : State Message} {turnId : TurnId}

theorem change (attributed : Attributed before) (turnId : TurnId)
    (coherent : Coherent False after)
    (requests : ∀ {id request}, after.requests.get? id = some request →
      before.requests.get? id = some request)
    (active : after.session.state = .active → before.session.state = .active)
    (others : ∀ other, other ≠ turnId →
      after.session.turnLedger.get? other = before.session.turnLedger.get? other ∧
        after.tasks.get? other = before.tasks.get? other ∧
        after.calls.get? other = before.calls.get? other)
    (scope : ∀ other record, other ≠ turnId →
      before.tasks.get? other = some ⟨.calling, false⟩ →
      before.session.turnLedger.get? other = some record → record.status = .inflight →
      before.scope = some other → after.scope = some other)
    (recorded : ∀ call, after.calls.get? turnId = some call →
      ∃ record, after.session.turnLedger.get? turnId = some record)
    (call : ∀ call record, after.calls.get? turnId = some call →
      after.session.turnLedger.get? turnId = some record → CallFits after turnId call record)
    (activeHere : ∀ record, after.session.turnLedger.get? turnId = some record →
      record.status.isActive = true →
      (∃ earlier, before.session.turnLedger.get? turnId = some earlier ∧
        earlier.status.isActive = true) ∨
      ∀ other call, before.calls.get? other = some call → call.result ≠ none)
    (openHere : ∀ call, after.calls.get? turnId = some call → call.result = none →
      (∃ earlier, before.calls.get? turnId = some earlier ∧ earlier.result = none) ∨
      before.sessionLock = none ∧ ∃ earlier,
        before.session.turnLedger.get? turnId = some earlier ∧ earlier.status.isActive = true)
    (aborting : ∀ {id request task record}, before.requests.get? id = some request →
      request.aborts = true → after.tasks.get? turnId = some task → task.phase = .calling →
      after.session.turnLedger.get? turnId = some record → record.status = .inflight →
      task.cancelRequested = true) :
    Attributed after := by
  refine
    { coherent := coherent
      recorded := ?_
      call := ?_
      idle := ?_
      alone := ?_
      aborting := ?_ }
  · intro other otherCall present
    by_cases same : other = turnId
    · subst other
      exact recorded otherCall present
    · rw [(others other same).2.2] at present
      rw [(others other same).1]
      exact attributed.recorded present
  · intro other otherCall record present found
    by_cases same : other = turnId
    · subst other
      exact call otherCall record present found
    · obtain ⟨sameRecord, sameTask, sameCall⟩ := others other same
      rw [sameRecord] at found
      rw [sameCall] at present
      exact (attributed.call present found).frame sameTask active
        (fun calling inflight => scope other record same calling found inflight)
  · intro id request checked other otherCall present found unfinished
    have checking := requests present
    by_cases same : other = turnId
    · subst other
      rcases openHere otherCall found unfinished with ⟨earlier, wasFound, wasOpen⟩ | ⟨free, -⟩
      · exact attributed.idle checking wasFound wasOpen
      · cases attributed.coherent.not_holder free checking
    · rw [(others other same).2.2] at found
      exact attributed.idle checking found unfinished
  · intro busy record other otherCall found isActive present unfinished
    by_cases sameCall : other = turnId
    · subst other
      by_cases sameRecord : busy = turnId
      · exact sameRecord.symm
      · rw [(others busy sameRecord).1] at found
        rcases openHere otherCall present unfinished with
          ⟨earlier, wasFound, wasOpen⟩ | ⟨-, earlier, wasFound, wasActive⟩
        · exact attributed.alone found isActive wasFound wasOpen
        · exact attributed.coherent.exclusive (.active wasFound wasActive) (.active found isActive)
    · rw [(others other sameCall).2.2] at present
      by_cases sameRecord : busy = turnId
      · subst busy
        rcases activeHere record found isActive with ⟨earlier, wasFound, wasActive⟩ | allOver
        · exact attributed.alone wasFound wasActive present unfinished
        · exact absurd unfinished (allOver other otherCall present)
      · rw [(others busy sameRecord).1] at found
        exact attributed.alone found isActive present unfinished
  · intro id request other task record present aborts taskPresent phase found inflight
    have earlier := requests present
    by_cases same : other = turnId
    · subst other
      exact aborting earlier aborts taskPresent phase found inflight
    · rw [(others other same).2.1] at taskPresent
      rw [(others other same).1] at found
      exact attributed.aborting earlier aborts taskPresent phase found inflight

theorem keep (attributed : Attributed before) (coherent : Coherent False after)
    (ledger : after.session.turnLedger = before.session.turnLedger)
    (tasks : after.tasks = before.tasks) (calls : after.calls = before.calls)
    (scope : after.scope = before.scope)
    (active : after.session.state = .active → before.session.state = .active)
    (checking : ∀ {id request checked},
      after.requests.get? id = some (.submit request (.checking checked)) →
      before.requests.get? id = some (.submit request (.checking checked)) ∨
        before.session.state = .active ∧ before.session.activeTurnId = none)
    (aborting : ∀ {id request}, after.requests.get? id = some request → request.aborts = true →
      before.requests.get? id = some request ∨ ActiveFlagged before) :
    Attributed after := by
  refine
    { coherent := coherent
      recorded := ?_
      call := ?_
      idle := ?_
      alone := ?_
      aborting := ?_ }
  · rw [calls, ledger]
    exact attributed.recorded
  · intro turnId call record present found
    rw [calls] at present
    rw [ledger] at found
    refine (attributed.call present found).frame (by rw [tasks]) active ?_
    intro _ _ isScope
    rw [scope]
    exact isScope
  · intro id request checked turnId call present found unfinished
    rw [calls] at found
    rcases checking present with earlier | ⟨isActive, idle⟩
    · exact attributed.idle earlier found unfinished
    · -- A session that is active and has no active record has no call left.
      obtain ⟨record, recordFound⟩ := attributed.recorded found
      rcases (attributed.call found recordFound).leftover unfinished with inflight | inactive
      · have settled := Coherent.inactive_of_idle idle recordFound
        rw [isActive_of_inflight inflight] at settled
        cases settled
      · exact inactive isActive
  · rw [calls, ledger]
    exact attributed.alone
  · intro id request turnId task record present aborts taskPresent phase found inflight
    rw [tasks] at taskPresent
    rw [ledger] at found
    rcases aborting present aborts with earlier | flagged
    · exact attributed.aborting earlier aborts taskPresent phase found inflight
    · have live : task.phase.isEnded = false := by
        rw [phase]
        rfl
      have current := attributed.coherent.current taskPresent live found
        (isActive_of_inflight inflight)
      rcases flagged turnId task current taskPresent with ended | requested
      · rw [live] at ended
        cases ended
      · exact requested

variable {task : TurnTask Message} {record : TurnRecord Message}

theorem create {config : ServerConfig Message} {id : RequestId} {reply : Reply}
    {request : MessageRequest Message} (attributed : Attributed state)
    (checking : state.requests.get? id = some (.submit request (.checking turnId)))
    (coherent : Coherent False
      ((State.createTurn config state turnId request).release.answer id reply)) :
    Attributed ((State.createTurn config state turnId request).release.answer id reply) := by
  have noCall (call : BackendCall Message) (present : state.calls.get? turnId = some call) :
      False := by
    obtain ⟨record, found⟩ := attributed.recorded present
    cases (attributed.coherent.checking checking).symm.trans found
  refine attributed.change turnId coherent ?_ (fun active => active) ?_ ?_ ?_ ?_ ?_ ?_ ?_
  · exact fun present => State.request_answer present
  · intro other different
    exact ⟨get?_set_of_ne _ _ different, get?_set_of_ne _ _ different, rfl⟩
  · exact fun _ _ _ _ _ _ isScope => isScope
  · exact fun call present => (noCall call present).elim
  · exact fun call _ present => (noCall call present).elim
  · exact fun _ _ _ => .inr (fun _ _ found => attributed.idle checking found)
  · exact fun call present => (noCall call present).elim
  · intro otherId otherRequest task record _ _ present phase
    simp only [State.answer, State.release, State.createTurn, State.setTask,
      get?_set_self] at present
    cases present
    cases phase

theorem settle (attributed : Attributed before) (turnId : TurnId)
    (coherent : Coherent False after) (requests : after.requests = before.requests)
    (calls : after.calls = before.calls) (scope : after.scope = before.scope)
    (active : after.session.state = .active → before.session.state = .active)
    (others : ∀ other, other ≠ turnId →
      after.session.turnLedger.get? other = before.session.turnLedger.get? other ∧
        after.tasks.get? other = before.tasks.get? other)
    (found : after.session.turnLedger.get? turnId = some record)
    (activeHere : record.status.isActive = true → ∃ earlier,
      before.session.turnLedger.get? turnId = some earlier ∧ earlier.status.isActive = true)
    (present : after.tasks.get? turnId = some task)
    (cancelled : task.phase = .calling → task.cancelRequested = true)
    (fits : ∀ call earlier, before.calls.get? turnId = some call →
      before.session.turnLedger.get? turnId = some earlier →
      CallFits before turnId call earlier →
      record.status ≠ .queued ∧ (call.running = true → record.status = .inflight) ∧
        (call.result = none → record.status = .inflight ∨ after.session.state ≠ .active) ∧
        PhaseCall call task.phase) :
    Attributed after := by
  refine attributed.change turnId coherent ?_ active ?_ ?_ ?_ ?_ ?_ ?_ ?_
  · intro id request requestPresent
    rw [← requests]
    exact requestPresent
  · intro other different
    exact ⟨(others other different).1, (others other different).2, by rw [calls]⟩
  · intro other otherRecord _ _ _ _ isScope
    rw [scope]
    exact isScope
  · exact fun _ _ => ⟨record, found⟩
  · intro call later callPresent laterFound
    cases found.symm.trans laterFound
    rw [calls] at callPresent
    obtain ⟨earlier, wasFound⟩ := attributed.recorded callPresent
    obtain ⟨started, running, leftover, phase⟩ :=
      fits call earlier callPresent wasFound (attributed.call callPresent wasFound)
    refine
      { started := started
        running := running
        leftover := leftover
        phase := ?_
        scope := ?_ }
    · intro later laterPresent
      cases present.symm.trans laterPresent
      exact phase
    · intro calling
      cases present.symm.trans calling
      cases cancelled rfl
  · intro later laterFound isActive
    cases found.symm.trans laterFound
    exact .inl (activeHere isActive)
  · intro call callPresent unfinished
    rw [calls] at callPresent
    exact .inl ⟨call, callPresent, unfinished⟩
  · intro id request later laterRecord _ _ laterPresent phase
    cases present.symm.trans laterPresent
    exact fun _ _ => cancelled phase

section

variable (attributed : Attributed state)
include attributed

theorem queue {phase : TurnPhase Message} (present : state.tasks.get? turnId = some task)
    (goes : Queues state turnId task.phase phase)
    (coherent : Coherent False (state.setTask turnId phase)) :
    Attributed (state.setTask turnId phase) := by
  obtain ⟨record, event, found, -⟩ := attributed.coherent.of_task present
  refine attributed.settle turnId coherent rfl rfl rfl id ?_ found
    (fun active => ⟨record, found, active⟩) (State.task_setTask state turnId phase) ?_ ?_
  · intro other different
    exact ⟨rfl, by rw [task_setTask, if_neg different]⟩
  · intro calling
    simp only at calling
    subst calling
    generalize task.phase = earlier at goes
    cases goes
  · intro call earlier callPresent wasFound fits
    cases found.symm.trans wasFound
    refine ⟨fits.started, fits.running, fits.leftover, ?_⟩
    have before := fits.phase present
    have result : state.callResult turnId = call.result := by
      simp [State.callResult, callPresent]
    generalize task.phase = earlierPhase at goes before
    cases goes with
    | start => trivial
    | interrupt => trivial
    | @outcome callResult outcome done read =>
      rw [result] at done
      cases outcome with
      | commit response => simp [PhaseCall, done]
      | unknown error processError => simp [PhaseCall, BackendCall.running, done]
    | timeout done => exact before

theorem start (free : state.sessionLock = none)
    (found : state.session.turnLedger.get? turnId = some record) (queued : record.status = .queued)
    (undisturbed : NoAbort state)
    (coherent : Coherent False
      (((state.setRecord turnId
        { record with
          status := .inflight
          updatedAt := state.now }).setCall turnId
        { opened := false
          cancelRequested := false
          result := none }).setTask turnId .calling)) :
    Attributed
      (((state.setRecord turnId
        { record with
          status := .inflight
          updatedAt := state.now }).setCall turnId
        { opened := false
          cancelRequested := false
          result := none }).setTask turnId .calling) := by
  have wasActive : record.status.isActive = true := by
    rw [queued]
    rfl
  refine attributed.change turnId coherent (fun present => present) id ?_ ?_ ?_ ?_ ?_ ?_ ?_
  · intro other different
    exact ⟨get?_set_of_ne _ _ different, get?_set_of_ne _ _ different, get?_set_of_ne _ _ different⟩
  · exact fun _ _ _ _ _ _ isScope => isScope
  · exact fun _ _ => ⟨_, get?_set_self _ _ _⟩
  · intro call later present laterFound
    simp only [State.setTask, State.setCall, State.setRecord, get?_set_self] at present laterFound
    cases present
    cases laterFound
    refine
      { started := fun same => by cases same
        running := fun _ => rfl
        leftover := fun _ => .inl rfl
        phase := ?_
        scope := ?_ }
    · intro task taskPresent
      cases (State.task_setTask _ turnId _).symm.trans taskPresent
      trivial
    · intro _ _ _ opened
      cases opened
  · exact fun _ _ _ => .inl ⟨record, found, wasActive⟩
  · exact fun _ _ _ => .inr ⟨free, record, found, wasActive⟩
  · intro id request task later present aborts
    rw [undisturbed id request present] at aborts
    cases aborts

section

variable (present : state.tasks.get? turnId = some task)
include present

theorem finalize (callOver : ¬ Terminal state turnId → CallOver state turnId)
    (coherent : Coherent False ((state.finalizeInterruptedTurn turnId).endTask turnId))
    (active : (state.finalizeInterruptedTurn turnId).session.state = .active →
      state.session.state = .active) :
    Attributed ((state.finalizeInterruptedTurn turnId).endTask turnId) := by
  obtain ⟨record, event, found, -, answered, -⟩ := attributed.coherent.of_task present
  have finalized := finalized_finalizeInterruptedTurn state turnId
  obtain ⟨later, foundLater, settled, -⟩ := finalized.settled record found answered
  have ended := task_endTask (state.finalizeInterruptedTurn turnId) turnId turnId
  rw [if_pos rfl] at ended
  refine attributed.settle turnId coherent finalized.requests finalized.calls finalized.scope
    active ?_ foundLater ?_ ended ?_ ?_
  · intro other different
    exact ⟨finalized.others other different,
      by rw [task_endTask, if_neg different, finalized.tasks]⟩
  · intro isActive
    rw [settled] at isActive
    cases isActive
  · intro calling
    cases calling
  · intro call earlier callPresent wasFound fits
    cases found.symm.trans wasFound
    refine ⟨?_, ?_, ?_, trivial⟩
    · intro queued
      rw [queued] at settled
      cases settled
    · intro running
      by_cases terminal : Terminal state turnId
      · have inactive := terminal record found
        rw [isActive_of_inflight (fits.running running)] at inactive
        cases inactive
      · rw [(callOver terminal call callPresent).1] at running
        cases running
    · intro unfinished
      refine .inr (fun isActive => ?_)
      by_cases terminal : Terminal state turnId
      · rcases fits.leftover unfinished with inflight | inactive
        · have inactive := terminal record found
          rw [isActive_of_inflight inflight] at inactive
          cases inactive
        · exact inactive (active isActive)
      · -- Only a shutdown records a call that has not ended, and it desyncs the session.
        rcases (callOver terminal call callPresent).2 with shutdown | ended
        · exact finalizeInterruptedTurn_desyncs shutdown terminal isActive
        · rw [unfinished] at ended
          cases ended

theorem commit {response : AdapterResponse Message}
    (phase : task.phase = .committing (.commit response))
    (coherent : Coherent False ((state.commitRecord turnId record response).endTask turnId)) :
    Attributed ((state.commitRecord turnId record response).endTask turnId) := by
  have ended := task_endTask (state.commitRecord turnId record response) turnId turnId
  rw [if_pos rfl] at ended
  refine attributed.settle turnId coherent rfl rfl rfl id ?_ (get?_set_self _ _ _) ?_ ended ?_ ?_
  · intro other different
    exact ⟨get?_set_of_ne _ _ different, by rw [task_endTask, if_neg different]; rfl⟩
  · intro isActive
    cases isActive
  · intro calling
    cases calling
  · intro call earlier callPresent wasFound fits
    have complete := fits.phase present
    rw [phase] at complete
    have finished : call.result.isSome = true := complete
    refine ⟨?_, ?_, ?_, trivial⟩
    · intro queued
      cases queued
    · intro running
      simp [BackendCall.running, Option.isSome_iff_ne_none.mp finished] at running
    · intro unfinished
      rw [unfinished] at finished
      cases finished

theorem unwind {error : TurnError} {processError : Bool}
    (phase : task.phase = .committing (.unknown error processError))
    (coherent : Coherent False
      (((state.unknownRecord turnId record error).acquire (.turn turnId)).setTask turnId
        (.unwinding processError))) :
    Attributed
      (((state.unknownRecord turnId record error).acquire (.turn turnId)).setTask turnId
        (.unwinding processError)) := by
  have inactive : (state.unknownRecord turnId record error).session.state ≠ .active :=
    State.desync_not_active _
  have found : (state.unknownRecord turnId record error).session.turnLedger.get? turnId =
      some { record with
        status := .unknown
        error := some error
        updatedAt := state.now } := by
    simp only [State.unknownRecord, State.desync_turnLedger, get?_set_self]
  refine attributed.settle turnId coherent rfl rfl rfl ?_ ?_ found ?_
    (State.task_setTask _ turnId _) ?_ ?_
  · exact fun active => absurd active inactive
  · intro other different
    refine ⟨?_, by rw [task_setTask, if_neg different]; rfl⟩
    simp only [State.setTask, State.acquire, State.unknownRecord, State.desync_turnLedger]
    exact get?_set_of_ne _ _ different
  · intro isActive
    cases isActive
  · intro calling
    cases calling
  · intro call earlier callPresent wasFound fits
    have stopped := fits.phase present
    rw [phase] at stopped
    have notRunning : call.running = false := stopped
    refine ⟨?_, ?_, fun _ => .inr inactive, trivial⟩
    · intro queued
      cases queued
    · intro running
      rw [notRunning] at running
      cases running

end

end

theorem finish (attributed : Attributed before)
    (present : before.tasks.get? turnId = some task) (coherent : Coherent False after)
    (requests : after.requests = before.requests) (calls : after.calls = before.calls)
    (scope : after.scope = before.scope) (session : after.session = before.session)
    (tasks : ∀ other, after.tasks.get? other =
      if other = turnId then some ⟨.ended, false⟩ else before.tasks.get? other) :
    Attributed after := by
  obtain ⟨record, event, found, -⟩ := attributed.coherent.of_task present
  have ended := tasks turnId
  rw [if_pos rfl] at ended
  refine attributed.settle turnId coherent requests calls scope (by rw [session]; exact id) ?_
    (by rw [session]; exact found) (fun active => ⟨record, found, active⟩) ended ?_ ?_
  · intro other different
    exact ⟨by rw [session], by rw [tasks, if_neg different]⟩
  · intro calling
    cases calling
  · intro call earlier callPresent wasFound fits
    cases found.symm.trans wasFound
    rw [session]
    exact ⟨fits.started, fits.running, fits.leftover, trivial⟩

theorem flag (attributed : Attributed state) (coherent : Coherent False state.cancelActiveTask) :
    Attributed state.cancelActiveTask := by
  rcases cancelActiveTask_cases state with
    ⟨same, -⟩ | ⟨turnId, task, current, present, live, changed⟩
  · rw [same]
    exact attributed
  · rw [changed] at coherent ⊢
    obtain ⟨record, event, found, -⟩ := attributed.coherent.of_task present
    refine attributed.settle turnId coherent rfl rfl rfl id ?_ found
      (fun active => ⟨record, found, active⟩) (get?_set_self _ _ _) (fun _ => rfl) ?_
    · intro other different
      exact ⟨rfl, get?_set_of_ne _ _ different⟩
    · intro call earlier callPresent wasFound fits
      cases found.symm.trans wasFound
      have samePhase := fits.phase present
      exact ⟨fits.started, fits.running, fits.leftover, samePhase⟩

theorem cancelQueued {later : TurnRecord Message} (attributed : Attributed state)
    (found : state.session.turnLedger.get? turnId = some record)
    (queued : record.status = .queued) (cancelled : later.status = .cancelled)
    (coherent : Coherent False ((state.setRecord turnId later).setEvent turnId)) :
    Attributed ((state.setRecord turnId later).setEvent turnId) := by
  obtain ⟨task, event, present, -, -, fits⟩ := attributed.coherent.of_record found
  have notCalling : task.phase ≠ .calling := by
    intro calling
    rw [calling] at fits
    rcases fits with inflight | ⟨settled, -⟩
    · cases queued.symm.trans inflight
    · rw [queued] at settled
      cases settled
  refine attributed.settle turnId coherent rfl rfl rfl id ?_ (get?_set_self _ _ _) ?_ present ?_ ?_
  · intro other different
    exact ⟨get?_set_of_ne _ _ different, rfl⟩
  · intro active
    rw [cancelled] at active
    cases active
  · exact fun calling => absurd calling notCalling
  · intro call earlier callPresent wasFound callFits
    cases found.symm.trans wasFound
    exact absurd queued callFits.started

theorem alterCall {call later : BackendCall Message} (attributed : Attributed before)
    (coherent : Coherent False after) (found : before.calls.get? turnId = some call)
    (unfinished : call.result = none) (session : after.session = before.session)
    (requests : after.requests = before.requests)
    (tasks : ∀ other, other ≠ turnId → after.tasks.get? other = before.tasks.get? other)
    (calls : after.calls = before.calls.set turnId later)
    (running : later.running = true → call.running = true)
    (phase : ∀ task, after.tasks.get? turnId = some task → PhaseCall later task.phase)
    (cancelled : ∀ task, after.tasks.get? turnId = some task → task.phase = .calling →
      before.tasks.get? turnId = some task)
    (scope : later.running = true → later.opened = true → after.scope = some turnId ∨
      before.scope = after.scope ∧ call.opened = true) :
    Attributed after := by
  have here : after.calls.get? turnId = some later := by
    rw [calls, get?_set_self]
  obtain ⟨record, recordFound⟩ := attributed.recorded found
  have fits := attributed.call found recordFound
  refine attributed.change turnId coherent ?_ (by rw [session]; exact id) ?_ ?_ ?_ ?_ ?_ ?_ ?_
  · intro id request present
    rw [← requests]
    exact present
  · intro other different
    exact ⟨by rw [session], tasks other different, by rw [calls, get?_set_of_ne _ _ different]⟩
  · intro other otherRecord different _ otherFound inflight
    have same := attributed.alone otherFound (isActive_of_inflight inflight) found unfinished
    exact absurd same.symm different
  · intro _ _
    rw [session]
    exact ⟨record, recordFound⟩
  · intro now nowRecord present nowFound
    cases here.symm.trans present
    rw [session] at nowFound
    cases recordFound.symm.trans nowFound
    refine
      { started := fits.started
        running := fun isRunning => fits.running (running isRunning)
        leftover := ?_
        phase := fun taskPresent => phase _ taskPresent
        scope := ?_ }
    · intro _
      rw [session]
      exact fits.leftover unfinished
    · intro calling inflight isRunning opened
      rcases scope isRunning opened with isScope | ⟨sameScope, wasOpened⟩
      · exact isScope
      · rw [← sameScope]
        exact fits.scope (cancelled _ calling rfl) inflight (running isRunning) wasOpened
  · intro now nowFound isActive
    rw [session] at nowFound
    exact .inl ⟨now, nowFound, isActive⟩
  · exact fun _ _ _ => .inl ⟨call, found, unfinished⟩
  · intro id request task now present aborts taskPresent calling nowFound inflight
    rw [session] at nowFound
    exact attributed.aborting present aborts (cancelled task taskPresent calling) calling nowFound
      inflight

theorem phaseCall_finished {call : BackendCall Message} {result : CallResult Message}
    {phase : TurnPhase Message} (fits : PhaseCall call phase) :
    PhaseCall { call with result := some result } phase := by
  cases phase with
  | committing outcome =>
    cases outcome with
    | commit response => rfl
    | unknown error processError => rfl
  | expiring => rfl
  | _ => exact fits

theorem clear (attributed : Attributed state)
    (coherent : Coherent False ({ state with scope := none } : State Message))
    (nobody : ∀ {turnId record}, state.tasks.get? turnId = some ⟨.calling, false⟩ →
      state.session.turnLedger.get? turnId = some record → record.status ≠ .inflight) :
    Attributed ({ state with scope := none } : State Message) := by
  refine
    { attributed with
      coherent := coherent
      call := ?_ }
  intro turnId call record present found
  refine (attributed.call present found).frame rfl id ?_
  intro calling inflight
  exact absurd inflight (nobody calling found)

theorem abortLedger (attributed : Attributed state)
    (stopped : AllStopped state) (coherent : Coherent False state.abortLedger) : Attributed state.abortLedger := by
  have inactive {turnId : TurnId} {record : TurnRecord Message}
      (found : state.abortLedger.session.turnLedger.get? turnId = some record) :
      record.status.isActive = false := by
    rw [record_abortLedger] at found
    obtain ⟨earlier, -, rfl⟩ := Option.map_eq_some_iff.mp found
    exact inactive_abortedRecord _ _
  refine
    { coherent := coherent
      recorded := ?_
      call := ?_
      idle := attributed.idle
      alone := ?_
      aborting := ?_ }
  · intro turnId call present
    obtain ⟨record, found⟩ := attributed.recorded present
    rw [record_abortLedger, found]
    exact ⟨_, rfl⟩
  · intro turnId call record present found
    have settled := inactive found
    rw [record_abortLedger] at found
    obtain ⟨earlier, wasFound, rfl⟩ := Option.map_eq_some_iff.mp found
    have callPresent : state.calls.get? turnId = some call := present
    have fits := attributed.call callPresent wasFound
    have notRunning : call.running = false := by
      cases running : call.running with
      | false => rfl
      | true =>
        have active := isActive_of_inflight (fits.running running)
        rw [stopped turnId earlier wasFound active call callPresent] at running
        cases running
    refine
      { started := ?_
        running := ?_
        leftover := ?_
        phase := fits.phase
        scope := ?_ }
    · intro queued
      rw [queued] at settled
      cases settled
    · intro running
      rw [notRunning] at running
      cases running
    · exact fun _ => .inr (fun active => by cases active)
    · intro _ _ running
      rw [notRunning] at running
      cases running
  · intro active record turnId call found isActive
    rw [inactive found] at isActive
    cases isActive
  · intro id request turnId task record _ _ _ _ found inflight
    have settled := inactive found
    rw [inflight] at settled
    cases settled

end Attributed

theorem Attributed.move {config : ServerConfig Message} (attributed : Attributed before)
    (moves : Move config False True before after) : Attributed after := by
  have coherent : Coherent False after := attributed.coherent.move moves
  cases moves with
  | quiet same =>
    refine attributed.keep coherent same.ledger same.tasks same.calls same.scope same.active ?_ ?_
    · intro id request checked present
      rcases same.requests present with quiet | earlier
      · cases quiet
      · exact .inl earlier
    · intro id request present aborts
      rcases same.requests present with quiet | earlier
      · simp [Request.isQuiet, aborts] at quiet
      · exact .inl earlier
  | @accept id request turnId session free active idle new sameLedger sameState =>
    refine attributed.keep coherent sameLedger rfl rfl rfl (fun _ => active) ?_ ?_
    · exact fun _ => .inr ⟨active, idle⟩
    · intro other otherRequest present aborts
      rcases State.request_setRequest present with same | earlier
      · rw [same] at aborts
        cases aborts
      · exact .inl earlier
  | create checking => exact attributed.create checking coherent
  | @leave id request reply present holds =>
    exact attributed.keep coherent rfl rfl rfl rfl (fun active => active)
      (fun otherPresent => .inl (State.request_answer otherPresent))
      (fun otherPresent _ => .inl (State.request_answer otherPresent))
  | @command id free idle =>
    refine attributed.keep coherent rfl rfl rfl rfl (fun active => active)
      (fun present => .inl ((State.request_setRequest present).resolve_left
        (fun same => by cases same))) ?_
    intro other request present aborts
    rcases State.request_setRequest present with same | earlier
    · rw [same] at aborts
      cases aborts
    · exact .inl earlier
  | flag => exact attributed.flag coherent
  | @abort id request flagged without =>
    refine attributed.keep coherent rfl rfl rfl rfl (fun active => active) ?_
      (fun _ _ => .inr flagged)
    intro other message checked present
    rcases State.request_setRequest present with same | earlier
    · rw [← same] at without
      cases without
    · exact .inl earlier
  | @abortHolding id flagged free =>
    exact attributed.keep coherent rfl rfl rfl rfl (fun active => active)
      (fun present => .inl ((State.request_setRequest present).resolve_left
        (fun same => by cases same)))
      (fun _ _ => .inr flagged)
  | clearForAbort present aborts =>
    refine attributed.clear coherent ?_
    intro turnId record calling found inflight
    cases attributed.aborting present aborts calling rfl found inflight
  | @clearForUnwinding unwound task processError present phase =>
    refine attributed.clear coherent ?_
    intro turnId record calling found inflight
    have occupies : task.phase.occupies = true := by
      rw [phase]
      rfl
    cases attributed.coherent.exclusive (.task present occupies)
      (.active found (isActive_of_inflight inflight))
    cases present.symm.trans calling
    cases phase
  | abortLedger stopped => exact attributed.abortLedger (stopped trivial) coherent
  | cancelQueued found queued => exact attributed.cancelQueued found queued rfl coherent
  | queue present goes => exact attributed.queue present goes coherent
  | start present phase free found queued undisturbed =>
    exact attributed.start free found queued (undisturbed trivial) coherent
  | finalize present phase free callOver =>
    exact attributed.finalize present (callOver trivial) coherent
      (finalizeInterruptedTurn_active _ _)
  | commit present phase => exact attributed.commit present phase coherent
  | unwind present phase => exact attributed.unwind present phase coherent
  | finish present | unwound present =>
    exact attributed.finish present coherent rfl rfl rfl rfl (task_endTask _ _)
  | vanish present =>
    exact attributed.finish present coherent rfl rfl rfl rfl (task_setTask _ _ · .ended)
  | @expire turnId call phase present found unfinished goes =>
    refine attributed.alterCall coherent found unfinished rfl rfl ?_ rfl ?_ ?_ ?_ ?_
    · intro other different
      rw [task_setTask, if_neg different]
      rfl
    · intro running
      simp [BackendCall.running] at running
    · intro task taskPresent
      cases (State.task_setTask _ turnId _).symm.trans taskPresent
      rcases goes with rfl | rfl <;> simp [PhaseCall, BackendCall.running]
    · intro task taskPresent calling
      cases (State.task_setTask _ turnId _).symm.trans taskPresent
      rcases goes with rfl | rfl <;> cases calling
    · intro running
      simp [BackendCall.running] at running
  | @openScope turnId call found unfinished free =>
    obtain ⟨record, recordFound⟩ := attributed.recorded found
    have fits := attributed.call found recordFound
    refine attributed.alterCall coherent found unfinished rfl rfl (fun _ _ => rfl) rfl id ?_
      (fun _ taskPresent _ => taskPresent) (fun _ _ => .inl rfl)
    intro task taskPresent
    exact fits.phase taskPresent
  | @cancelCall turnId task call present phase found unfinished =>
    refine attributed.alterCall coherent found unfinished rfl rfl (fun _ _ => rfl) rfl ?_ ?_
      (fun _ taskPresent _ => taskPresent) ?_
    · intro running
      simp [BackendCall.running] at running
    · intro later taskPresent
      cases present.symm.trans taskPresent
      rw [phase]
      trivial
    · intro running
      simp [BackendCall.running] at running
  | @failCall turnId call result found unfinished
  | @endCall turnId call result found unfinished =>
    obtain ⟨record, recordFound⟩ := attributed.recorded found
    have fits := attributed.call found recordFound
    refine attributed.alterCall coherent found unfinished rfl rfl (fun _ _ => rfl) rfl ?_ ?_
      (fun _ taskPresent _ => taskPresent) ?_
    · intro running
      cases running
    · exact fun task taskPresent => Attributed.phaseCall_finished (fits.phase taskPresent)
    · intro running
      cases running

theorem Attributed.moves {config : ServerConfig Message} (attributed : Attributed before)
    (path : Moves config False True before after) :
    Attributed after := by
  induction path with
  | refl => exact attributed
  | tail _ last ih => exact ih.move last

theorem attributed_initial : Attributed (State.initial : State Message) := by
  refine
    { coherent := Coherent.initial
      recorded := ?_
      call := ?_
      idle := ?_
      alone := ?_
      aborting := ?_ }
  · intro turnId call present
    cases present
  · intro turnId call record present
    cases present
  · intro id request checked turnId call present
    cases present
  · intro active record turnId call present
    cases present
  · intro id request turnId task record present
    cases present

theorem attributed_step (config : ServerConfig Message) {action : Action Message}
    (attributed : Attributed state) (safe : SafeCalls state action) :
    Attributed (step config state action) := by
  exact attributed.moves
    (moves_of_step config state action (fun impossible => impossible.elim) (fun _ => safe))

structure OneCall (state : State Message) : Prop where
  single : ∀ first second firstCall secondCall, state.calls.get? first = some firstCall →
    firstCall.running = true → state.calls.get? second = some secondCall →
    secondCall.running = true → first = second
  inflight : ∀ turnId call, state.calls.get? turnId = some call → call.running = true →
    ∃ record, state.session.turnLedger.get? turnId = some record ∧ record.status = .inflight
  noCommand : ∀ turnId call id, state.calls.get? turnId = some call → call.running = true →
    state.requests.get? id ≠ some (.command true)
  scope : ∀ turnId call, state.calls.get? turnId = some call → call.running = true →
    call.opened = true → state.tasks.get? turnId = some ⟨.calling, false⟩ →
    state.scope = some turnId

theorem Attributed.oneCall (attributed : Attributed state) : OneCall state := by
  have inflight (turnId : TurnId) (call : BackendCall Message)
      (present : state.calls.get? turnId = some call) (running : call.running = true) :
      ∃ record, state.session.turnLedger.get? turnId = some record ∧ record.status = .inflight := by
    obtain ⟨record, found⟩ := attributed.recorded present
    exact ⟨record, found, (attributed.call present found).running running⟩
  refine
    { single := ?_
      inflight := inflight
      noCommand := ?_
      scope := ?_ }
  · intro first second firstCall secondCall firstPresent firstRuns secondPresent secondRuns
    obtain ⟨firstRecord, firstFound, firstInflight⟩ := inflight first _ firstPresent firstRuns
    obtain ⟨secondRecord, secondFound, secondInflight⟩ := inflight second _ secondPresent secondRuns
    exact attributed.coherent.exclusive (.active firstFound (isActive_of_inflight firstInflight))
      (.active secondFound (isActive_of_inflight secondInflight))
  · intro turnId call id present running command
    obtain ⟨record, found, isInflight⟩ := inflight turnId call present running
    have settled := attributed.coherent.command command found
    rw [isActive_of_inflight isInflight] at settled
    cases settled
  · intro turnId call present running opened calling
    obtain ⟨record, found, isInflight⟩ := inflight turnId call present running
    exact (attributed.call present found).scope calling isInflight running opened

/-- In every run in which a cancelled turn is recorded as such only after its call ended (after
it was cancelled at least where a shutdown or an abort settles the turn), and no turn starts its
call while the adapter still aborts for another request, at most one call runs, for the inflight
turn, without a command beside it and in its own scope. -/
theorem one_call_of_safe_calls (config : ServerConfig Message) (actions : List (Action Message))
    (safe : Runs.Admits (step config) SafeCalls State.initial actions) (past : List (Action Message))
    (early : past <+: actions) : OneCall (Runs.run (step config) State.initial past) := by
  have attributed : Attributed (Runs.run (step config) State.initial past) :=
    Runs.prefix_invariant (fun _ _ attributed safe => attributed_step config attributed safe)
      attributed_initial safe early
  exact attributed.oneCall

/-- A turn that is cancelled when its call is done, and the next turn in its call. -/
def cancelAfterCall : List (Action String) :=
  [.arriveSubmit
      { turnId := some "first"
        messages := ["hello"] },
    .passPause 0, .enterSubmit 0 "", .answerHealth 0 true, .resumeTurn "first",
    .openScope "first",
    .endCall "first" (.returned
      { outputs := ["hi"]
        backendSessionId := "backend" }),
    .arriveCancel "first", .enterCancel 1, .abortReturned 1 true, .resumeTurn "first",
    .arriveSubmit
      { turnId := some "second"
        messages := ["again"] },
    .passPause 2, .enterSubmit 2 "", .answerHealth 2 true, .resumeTurn "second",
    .openScope "second"]

/-- A turn that starts in a pause, whose call is cancelled by the resume, and the next turn. -/
def resumeDuringCall : List (Action String) :=
  [.arriveSubmit
      { turnId := some "first"
        messages := ["hello"] },
    .passPause 0, .enterSubmit 0 "", .answerHealth 0 true, .setPaused true, .resumeTurn "first",
    .openScope "first", .setPaused false, .resumeTurn "first",
    .endCall "first" (.raised .cancelled), .resumeTurn "first",
    .arriveSubmit
      { turnId := some "second"
        messages := ["again"] },
    .passPause 1, .enterSubmit 1 "", .answerHealth 1 true, .resumeTurn "second",
    .openScope "second"]

theorem one_call_after_cancel :
    OneCall (Runs.run (step plainConfig) State.initial cancelAfterCall) ∧
      OneCall (Runs.run (step plainConfig) State.initial resumeDuringCall) :=
  ⟨one_call_of_safe_calls plainConfig cancelAfterCall (by decide +kernel) cancelAfterCall
      List.prefix_rfl,
    one_call_of_safe_calls plainConfig resumeDuringCall (by decide +kernel) resumeDuringCall
      List.prefix_rfl⟩

/-- The same cancellation while the call still runs: the adapter's abort fails to end it. -/
def cancelDuringCall : List (Action String) :=
  [.arriveSubmit
      { turnId := some "first"
        messages := ["hello"] },
    .passPause 0, .enterSubmit 0 "", .answerHealth 0 true, .resumeTurn "first",
    .openScope "first", .arriveCancel "first", .enterCancel 1, .abortReturned 1 true,
    .resumeTurn "first",
    .arriveSubmit
      { turnId := some "second"
        messages := ["again"] },
    .passPause 2, .enterSubmit 2 "", .answerHealth 2 true, .resumeTurn "second",
    .openScope "second"]

theorem two_calls_after_cancel :
    ¬ OneCall (Runs.run (step plainConfig) State.initial cancelDuringCall) := by
  intro oneCall
  have same := oneCall.single "first" "second" ⟨true, false, none⟩ ⟨true, false, none⟩ rfl rfl rfl
    rfl
  revert same
  decide

end Dressage.Blackbox

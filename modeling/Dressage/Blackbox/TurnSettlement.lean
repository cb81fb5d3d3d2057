/-
Every admitted turn settles.

A task that ends leaves its record settled unless a cancellation reached it while it waited to
start or to record its outcome.
-/

import Dressage.Lib.Runs
import Dressage.Blackbox.TurnMoves

namespace Dressage.Blackbox

open Lib OrderedDict State

variable {Message : Type}

def TurnPhase.occupies : TurnPhase Message → Bool
  | .calling => true
  | .expiring => true
  | .interrupted => true
  | .committing _ => true
  | .unwinding _ => true
  | _ => false

inductive Claims (state : State Message) (turnId : TurnId) : Prop
  | checking {id : RequestId} {request : MessageRequest Message}
    (present : state.requests.get? id = some (.submit request (.checking turnId)))
  | active {record : TurnRecord Message}
    (present : state.session.turnLedger.get? turnId = some record)
    (active : record.status.isActive = true)
  | task {task : TurnTask Message} (present : state.tasks.get? turnId = some task)
    (occupies : task.phase.occupies = true)

/-- What the record and the event are while the task is in the phase. With `settling`, a task
that ended left its turn settled. -/
def PhaseFits (settling : Prop) (sessionState : SessionState) (record : TurnRecord Message)
    (event : Bool) : TurnPhase Message → Prop
  | .created => record.status ≠ .inflight ∧ (record.status.isActive = false → event = true)
  | .starting => record.status ≠ .inflight ∧ (record.status.isActive = false → event = true)
  | .calling => record.status = .inflight ∨ record.status.isActive = false ∧ sessionState = .aborted
  | .expiring => record.status = .inflight ∨ record.status.isActive = false ∧
    sessionState = .aborted
  | .interrupted => record.status = .inflight ∨ record.status.isActive = false ∧
    sessionState = .aborted
  | .committing _ => record.status = .inflight ∨ record.status.isActive = false ∧
    sessionState = .aborted
  | .unwinding _ => record.status.isActive = false
  | .ended => settling → record.status.isActive = false ∧ event = true

def Answered (record : TurnRecord Message) : Prop :=
  record.status.isActive = false → record.status = .committed ∨ record.error.isSome = true

inductive TurnFits (settling : Prop) (sessionState : SessionState) :
    Option (TurnRecord Message) → Option (TurnTask Message) → Option Bool → Prop
  | absent : TurnFits settling sessionState none none none
  | present {record : TurnRecord Message} {task : TurnTask Message} {event : Bool}
    (answered : Answered record)
    (fits : PhaseFits settling sessionState record event task.phase) :
    TurnFits settling sessionState (some record) (some task) (some event)

structure Coherent (settling : Prop) (state : State Message) : Prop where
  turn : ∀ turnId, TurnFits settling state.session.state
    (state.session.turnLedger.get? turnId) (state.tasks.get? turnId) (state.events.get? turnId)
  exclusive : ∀ {first second}, Claims state first → Claims state second → first = second
  current : ∀ {turnId task record}, state.tasks.get? turnId = some task →
    task.phase.isEnded = false → state.session.turnLedger.get? turnId = some record →
    record.status.isActive = true → state.activeTask = some turnId
  holder : ∀ {id request}, state.requests.get? id = some request → request.holdsLock = true →
    state.sessionLock = some (.request id)
  unwinding : ∀ {turnId task processError}, state.tasks.get? turnId = some task →
    task.phase = .unwinding processError → state.sessionLock = some (.turn turnId)
  checking : ∀ {id request turnId},
    state.requests.get? id = some (.submit request (.checking turnId)) →
    state.session.turnLedger.get? turnId = none
  command : ∀ {id turnId record}, state.requests.get? id = some (.command true) →
    state.session.turnLedger.get? turnId = some record → record.status.isActive = false

variable {settling : Prop} {state : State Message}

theorem PhaseFits.mono {earlier later : SessionState} {record : TurnRecord Message} {event : Bool}
    {phase : TurnPhase Message} (aborted : earlier = .aborted → later = .aborted)
    (fits : PhaseFits settling earlier record event phase) :
    PhaseFits settling later record event phase := by
  cases phase with
  | created | starting | unwinding processError | ended => exact fits
  | calling | expiring | interrupted | committing outcome =>
    rcases fits with inflight | ⟨settled, state⟩
    · exact .inl inflight
    · exact .inr ⟨settled, aborted state⟩

theorem TurnFits.mono {earlier later : SessionState} {record : Option (TurnRecord Message)}
    {task : Option (TurnTask Message)} {event : Option Bool}
    (aborted : earlier = .aborted → later = .aborted)
    (fits : TurnFits settling earlier record task event) :
    TurnFits settling later record task event := by
  cases fits with
  | absent => exact .absent
  | present answered fits => exact .present answered (fits.mono aborted)

namespace Coherent

variable {settling : Prop} {state before after : State Message} {turnId : TurnId}

section

variable (coherent : Coherent settling state)
include coherent

theorem of_task {task : TurnTask Message} (present : state.tasks.get? turnId = some task) :
    ∃ record event, state.session.turnLedger.get? turnId = some record ∧
      state.events.get? turnId = some event ∧ Answered record ∧
      PhaseFits settling state.session.state record event task.phase := by
  have fits := coherent.turn turnId
  rw [present] at fits
  generalize state.session.turnLedger.get? turnId = record at fits ⊢
  generalize state.events.get? turnId = event at fits ⊢
  cases fits with
  | present answered fits => exact ⟨_, _, rfl, rfl, answered, fits⟩

theorem of_record {record : TurnRecord Message}
    (present : state.session.turnLedger.get? turnId = some record) :
    ∃ task event, state.tasks.get? turnId = some task ∧
      state.events.get? turnId = some event ∧ Answered record ∧
      PhaseFits settling state.session.state record event task.phase := by
  have fits := coherent.turn turnId
  rw [present] at fits
  generalize state.tasks.get? turnId = task at fits ⊢
  generalize state.events.get? turnId = event at fits ⊢
  cases fits with
  | present answered fits => exact ⟨_, _, rfl, rfl, answered, fits⟩

theorem not_holder (free : state.sessionLock = none) {id : RequestId} {request : Request Message}
    (present : state.requests.get? id = some request) : request.holdsLock = false := by
  cases holds : request.holdsLock with
  | false => rfl
  | true => cases free.symm.trans (coherent.holder present holds)

theorem not_unwinding (free : state.sessionLock = none) {task : TurnTask Message}
    {processError : Bool} (present : state.tasks.get? turnId = some task) :
    task.phase ≠ .unwinding processError := by
  intro phase
  cases free.symm.trans (coherent.unwinding present phase)

end

theorem change (coherent : Coherent settling before) (turnId : TurnId)
    (requests : after.requests = before.requests) (lock : after.sessionLock = before.sessionLock)
    (aborted : before.session.state = .aborted → after.session.state = .aborted)
    (others : ∀ other, other ≠ turnId →
      after.session.turnLedger.get? other = before.session.turnLedger.get? other ∧
        after.tasks.get? other = before.tasks.get? other ∧
        after.events.get? other = before.events.get? other)
    (known : before.session.turnLedger.get? turnId ≠ none)
    (fits : TurnFits settling after.session.state (after.session.turnLedger.get? turnId)
      (after.tasks.get? turnId) (after.events.get? turnId))
    (active : ∀ record, after.session.turnLedger.get? turnId = some record →
      record.status.isActive = true → ∃ earlier,
        before.session.turnLedger.get? turnId = some earlier ∧ earlier.status.isActive = true)
    (occupies : ∀ task, after.tasks.get? turnId = some task → task.phase.occupies = true →
      Claims before turnId)
    (unwinding : ∀ task processError, after.tasks.get? turnId = some task →
      task.phase = .unwinding processError → before.sessionLock = some (.turn turnId))
    (current : ∀ task record, after.tasks.get? turnId = some task →
      task.phase.isEnded = false → after.session.turnLedger.get? turnId = some record →
      record.status.isActive = true → after.activeTask = some turnId)
    (keeps : ∀ other, other ≠ turnId → before.activeTask = some other →
      after.activeTask = some other) :
    Coherent settling after := by
  have claims (other : TurnId) (claim : Claims after other) : Claims before other := by
    cases claim with
    | checking present => exact .checking (by rw [← requests]; exact present)
    | active present isActive =>
      by_cases same : other = turnId
      · subst other
        obtain ⟨earlier, found, wasActive⟩ := active _ present isActive
        exact .active found wasActive
      · rw [(others other same).1] at present
        exact .active present isActive
    | task present phase =>
      by_cases same : other = turnId
      · subst other
        exact occupies _ present phase
      · rw [(others other same).2.1] at present
        exact .task present phase
  refine
    { turn := ?_
      exclusive := fun first second => coherent.exclusive (claims _ first) (claims _ second)
      current := ?_
      holder := ?_
      unwinding := ?_
      checking := ?_
      command := ?_ }
  · intro other
    by_cases same : other = turnId
    · subst other
      exact fits
    · obtain ⟨sameRecord, sameTask, sameEvent⟩ := others other same
      rw [sameRecord, sameTask, sameEvent]
      exact (coherent.turn other).mono aborted
  · intro other task record present live found isActive
    by_cases same : other = turnId
    · subst other
      exact current task record present live found isActive
    · rw [(others other same).2.1] at present
      rw [(others other same).1] at found
      exact keeps other same (coherent.current present live found isActive)
  · intro id request present holds
    rw [requests] at present
    rw [lock]
    exact coherent.holder present holds
  · intro other task processError present phase
    by_cases same : other = turnId
    · subst other
      rw [lock]
      exact unwinding task processError present phase
    · rw [(others other same).2.1] at present
      rw [lock]
      exact coherent.unwinding present phase
  · intro id request other present
    rw [requests] at present
    have absent := coherent.checking present
    by_cases same : other = turnId
    · subst other
      exact absurd absent known
    · rw [(others other same).1]
      exact absent
  · intro id other record present found
    rw [requests] at present
    by_cases same : other = turnId
    · subst other
      cases isActive : record.status.isActive with
      | false => rfl
      | true =>
        obtain ⟨earlier, wasFound, wasActive⟩ := active record found isActive
        rw [coherent.command present wasFound] at wasActive
        cases wasActive
    · rw [(others other same).1] at found
      exact coherent.command present found

end Coherent

theorem event_setEvent (state : State Message) (turnId other : TurnId) :
    (state.setEvent turnId).events.get? other =
      if other = turnId then (state.events.get? turnId).map (fun _ => true)
      else state.events.get? other := by
  unfold setEvent
  by_cases same : other = turnId
  · subst other
    cases found : state.events.get? turnId with
    | none => simp [found]
    | some event => simp
  · cases found : state.events.get? turnId with
    | none => simp [same]
    | some event => simp [same, get?_set_of_ne]

theorem task_endTask (state : State Message) (turnId other : TurnId) :
    (state.endTask turnId).tasks.get? other =
      if other = turnId then some ⟨.ended, false⟩ else state.tasks.get? other := by
  simp only [endTask, setTask, setEvent, get?_set]

theorem event_endTask (state : State Message) (turnId other : TurnId) :
    (state.endTask turnId).events.get? other =
      if other = turnId then (state.events.get? turnId).map (fun _ => true)
      else state.events.get? other :=
  event_setEvent state turnId other

theorem task_setTask (state : State Message) (turnId other : TurnId)
    (phase : TurnPhase Message) :
    (state.setTask turnId phase).tasks.get? other =
      if other = turnId then some ⟨phase, false⟩ else state.tasks.get? other :=
  get?_set _ _ _ _

theorem current_endTask {turnId other : TurnId} (different : other ≠ turnId)
    (current : state.activeTask = some other) :
    (state.endTask turnId).activeTask = some other := by
  have elsewhere : state.activeTask ≠ some turnId := by
    rw [current]
    exact fun same => different (Option.some.inj same)
  simp only [endTask]
  rw [if_neg elsewhere]
  exact current

structure Finalized (turnId : TurnId) (before after : State Message) : Prop where
  requests : after.requests = before.requests
  lock : after.sessionLock = before.sessionLock
  tasks : after.tasks = before.tasks
  activeTask : after.activeTask = before.activeTask
  events : after.events = before.events
  calls : after.calls = before.calls
  scope : after.scope = before.scope
  aborted : before.session.state = .aborted → after.session.state = .aborted
  others : ∀ other, other ≠ turnId →
    after.session.turnLedger.get? other = before.session.turnLedger.get? other
  settled : ∀ record, before.session.turnLedger.get? turnId = some record → Answered record →
    ∃ later, after.session.turnLedger.get? turnId = some later ∧
      later.status.isActive = false ∧ Answered later

theorem finalized_finalizeInterruptedTurn (state : State Message) (turnId : TurnId) :
    Finalized turnId state (state.finalizeInterruptedTurn turnId) := by
  unfold finalizeInterruptedTurn
  cases found : state.session.turnLedger.get? turnId with
  | none =>
    refine ⟨rfl, rfl, rfl, rfl, rfl, rfl, rfl, id, fun _ _ => rfl, ?_⟩
    intro record other
    cases found.symm.trans other
  | some record =>
    by_cases settled : record.status.isActive = false
    · simp only [if_pos settled]
      refine ⟨rfl, rfl, rfl, rfl, rfl, rfl, rfl, id, fun _ _ => rfl, ?_⟩
      intro other same answered
      cases found.symm.trans same
      exact ⟨record, found, settled, answered⟩
    · simp only [if_neg settled]
      by_cases shutdown : state.shutdownStarted = true
      · rw [if_pos shutdown]
        refine ⟨rfl, rfl, rfl, rfl, rfl, rfl, rfl, ?_, ?_, ?_⟩
        · exact fun aborted => desync_aborted aborted
        · intro other different
          rw [desync_turnLedger]
          exact get?_set_of_ne _ _ different
        · intro other same answered
          rw [desync_turnLedger]
          exact ⟨_, get?_set_self _ _ _, rfl, fun _ => .inr rfl⟩
      · rw [if_neg shutdown]
        refine ⟨rfl, rfl, rfl, rfl, rfl, rfl, rfl, id, ?_, ?_⟩
        · intro other different
          exact get?_set_of_ne _ _ different
        · intro other same answered
          exact ⟨_, get?_set_self _ _ _, rfl, fun _ => .inr rfl⟩

namespace Coherent

variable {settling : Prop} {state before middle : State Message} {turnId : TurnId}
  {task : TurnTask Message} {record : TurnRecord Message}

theorem ending (coherent : Coherent settling before)
    (present : before.tasks.get? turnId = some task)
    (requests : middle.requests = before.requests)
    (lock : middle.sessionLock = before.sessionLock) (tasks : middle.tasks = before.tasks)
    (activeTask : middle.activeTask = before.activeTask) (events : middle.events = before.events)
    (aborted : before.session.state = .aborted → middle.session.state = .aborted)
    (others : ∀ other, other ≠ turnId →
      middle.session.turnLedger.get? other = before.session.turnLedger.get? other)
    (found : middle.session.turnLedger.get? turnId = some record) (answered : Answered record)
    (settled : settling → record.status.isActive = false)
    (active : record.status.isActive = true → ∃ earlier,
      before.session.turnLedger.get? turnId = some earlier ∧ earlier.status.isActive = true) :
    Coherent settling (middle.endTask turnId) := by
  obtain ⟨earlier, event, wasFound, eventFound, -, -⟩ := coherent.of_task present
  have endedTask : (middle.endTask turnId).tasks.get? turnId = some ⟨.ended, false⟩ := by
    rw [task_endTask, if_pos rfl]
  refine coherent.change turnId requests lock aborted ?_ ?_ ?_ ?_ ?_ ?_ ?_ ?_
  · intro other different
    refine ⟨others other different, ?_, ?_⟩
    · rw [task_endTask, if_neg different, tasks]
    · rw [event_endTask, if_neg different, events]
  · rw [wasFound]
    exact fun absent => by cases absent
  · have setEvent : (middle.endTask turnId).events.get? turnId = some true := by
      rw [event_endTask, if_pos rfl, events, eventFound]
      rfl
    have sameRecord : (middle.endTask turnId).session.turnLedger.get? turnId = some record := found
    rw [sameRecord, endedTask, setEvent]
    exact .present answered (fun holds => ⟨settled holds, rfl⟩)
  · intro later foundLater isActive
    cases found.symm.trans foundLater
    exact active isActive
  · intro later presentLater occupies
    cases endedTask.symm.trans presentLater
    cases occupies
  · intro later processError presentLater phase
    cases endedTask.symm.trans presentLater
    cases phase
  · intro later laterRecord presentLater live
    cases endedTask.symm.trans presentLater
    cases live
  · intro other different wasCurrent
    refine current_endTask different ?_
    rw [activeTask]
    exact wasCurrent

variable {after : State Message}

theorem entering {phase : TurnPhase Message} (coherent : Coherent settling before)
    (present : before.tasks.get? turnId = some task) (live : task.phase.isEnded = false)
    (requests : after.requests = before.requests) (lock : after.sessionLock = before.sessionLock)
    (activeTask : after.activeTask = before.activeTask)
    (tasks : ∀ other, after.tasks.get? other =
      if other = turnId then some ⟨phase, false⟩ else before.tasks.get? other)
    (events : after.events = before.events)
    (aborted : before.session.state = .aborted → after.session.state = .aborted)
    (others : ∀ other, other ≠ turnId →
      after.session.turnLedger.get? other = before.session.turnLedger.get? other)
    (found : after.session.turnLedger.get? turnId = some record) (answered : Answered record)
    (fits : ∀ event, before.events.get? turnId = some event →
      PhaseFits settling after.session.state record event phase)
    (active : record.status.isActive = true → ∃ earlier,
      before.session.turnLedger.get? turnId = some earlier ∧ earlier.status.isActive = true)
    (occupies : phase.occupies = true → Claims before turnId)
    (unwinding : ∀ processError, phase ≠ .unwinding processError) :
    Coherent settling after := by
  obtain ⟨earlier, event, wasFound, eventFound, -, -⟩ := coherent.of_task present
  have here : after.tasks.get? turnId = some ⟨phase, false⟩ := by
    rw [tasks, if_pos rfl]
  refine coherent.change turnId requests lock aborted ?_ ?_ ?_ ?_ ?_ ?_ ?_ ?_
  · intro other different
    exact ⟨others other different, by rw [tasks, if_neg different], by rw [events]⟩
  · rw [wasFound]
    exact fun absent => by cases absent
  · rw [found, here, events, eventFound]
    exact .present answered (fits event eventFound)
  · intro later foundLater isActive
    cases found.symm.trans foundLater
    exact active isActive
  · intro later presentLater isOccupied
    cases here.symm.trans presentLater
    exact occupies isOccupied
  · intro later processError presentLater is
    cases here.symm.trans presentLater
    exact absurd is (unwinding processError)
  · intro later laterRecord _ _ foundLater isActive
    cases found.symm.trans foundLater
    obtain ⟨earlier, earlierFound, wasActive⟩ := active isActive
    rw [activeTask]
    exact coherent.current present live earlierFound wasActive
  · intro other _ wasCurrent
    rw [activeTask]
    exact wasCurrent

theorem answered_of_active {record : TurnRecord Message}
    (active : record.status.isActive = true) : Answered record := by
  intro settled
  rw [active] at settled
  cases settled

theorem queue {phase : TurnPhase Message} (coherent : Coherent settling state)
    (present : state.tasks.get? turnId = some task)
    (goes : Queues state turnId task.phase phase) :
    Coherent settling (state.setTask turnId phase) := by
  obtain ⟨record, event, found, eventFound, answered, fits⟩ := coherent.of_task present
  have unchanged : record.status.isActive = true → ∃ earlier,
      state.session.turnLedger.get? turnId = some earlier ∧ earlier.status.isActive = true :=
    fun active => ⟨record, found, active⟩
  -- The phases on both sides ask the same of the record.
  have stillFits : ∀ other, state.events.get? turnId = some other →
      PhaseFits settling state.session.state record other phase := by
    intro other otherFound
    cases eventFound.symm.trans otherFound
    generalize task.phase = earlier at goes fits
    cases goes <;> exact fits
  have occupied : phase.occupies = true → task.phase.occupies = true := by
    generalize task.phase = earlier at goes
    intro occupies
    cases goes <;> first | rfl | cases occupies
  have live : task.phase.isEnded = false := by
    generalize task.phase = earlier at goes
    cases goes <;> rfl
  refine coherent.entering present live rfl rfl rfl (task_setTask state turnId · phase) rfl id
    (fun _ _ => rfl) found answered stillFits unchanged ?_ ?_
  · exact fun occupies => .task present (occupied occupies)
  · intro processError same
    subst same
    generalize task.phase = earlier at goes
    cases goes

theorem start (coherent : Coherent settling state)
    (present : state.tasks.get? turnId = some task) (phase : task.phase = .starting)
    (found : state.session.turnLedger.get? turnId = some record)
    (queued : record.status = .queued) (call : BackendCall Message) :
    Coherent settling
      (((state.setRecord turnId
        { record with
          status := .inflight
          updatedAt := state.now }).setCall turnId call).setTask turnId .calling) := by
  have wasActive : record.status.isActive = true := by
    rw [queued]
    rfl
  have live : task.phase.isEnded = false := by
    rw [phase]
    rfl
  refine coherent.entering present live rfl rfl rfl (task_setTask _ turnId · .calling) rfl id ?_
    (get?_set_self _ _ _) (answered_of_active rfl) (fun _ _ => .inl rfl) ?_ ?_ ?_
  · intro other different
    exact get?_set_of_ne _ _ different
  · exact fun _ => ⟨record, found, wasActive⟩
  · exact fun _ => .active found wasActive
  · intro processError same
    cases same

theorem finalize (coherent : Coherent settling state)
    (present : state.tasks.get? turnId = some task) :
    Coherent settling ((state.finalizeInterruptedTurn turnId).endTask turnId) := by
  obtain ⟨record, event, found, -, answered, -⟩ := coherent.of_task present
  have finalized := finalized_finalizeInterruptedTurn state turnId
  obtain ⟨later, foundLater, settled, answeredLater⟩ := finalized.settled record found answered
  refine coherent.ending present finalized.requests finalized.lock finalized.tasks
    finalized.activeTask finalized.events finalized.aborted finalized.others foundLater
    answeredLater (fun _ => settled) ?_
  intro active
  rw [settled] at active
  cases active

theorem commit {response : AdapterResponse Message} (coherent : Coherent settling state)
    (present : state.tasks.get? turnId = some task) :
    Coherent settling ((state.commitRecord turnId record response).endTask turnId) := by
  refine coherent.ending present rfl rfl rfl rfl rfl id ?_ (get?_set_self _ _ _)
    (fun _ => .inl rfl) (fun _ => rfl) ?_
  · intro other different
    exact get?_set_of_ne _ _ different
  · intro active
    cases active

theorem finish (coherent : Coherent settling state)
    (present : state.tasks.get? turnId = some task)
    (finishes : Finishes settling state turnId task.phase) :
    Coherent settling (state.endTask turnId) := by
  obtain ⟨record, event, found, -, answered, fits⟩ := coherent.of_task present
  refine coherent.ending present rfl rfl rfl rfl rfl id (fun _ _ => rfl) found answered ?_
    (fun active => ⟨record, found, active⟩)
  intro holds
  generalize task.phase = phase at finishes fits
  cases finishes with
  | notQueued stale =>
    have notQueued := stale record found
    have notInflight := fits.1
    cases status : record.status <;> simp_all [TurnStatus.isActive]
  | notInflight outcome stale =>
    rcases fits with inflight | ⟨settled, -⟩
    · exact absurd inflight (stale record found)
    · exact settled
  | cancelled _ settled => exact settled holds record found

theorem vanish (coherent : Coherent settling state)
    (present : state.tasks.get? turnId = some task) (phase : task.phase = .created)
    (settled : settling → Terminal state turnId) :
    Coherent settling (state.setTask turnId .ended) := by
  obtain ⟨record, event, found, eventFound, answered, fits⟩ := coherent.of_task present
  rw [phase] at fits
  refine coherent.entering present (by rw [phase]; rfl) rfl rfl rfl
    (task_setTask state turnId · .ended) rfl id (fun _ _ => rfl) found answered ?_
    (fun active => ⟨record, found, active⟩) ?_ ?_
  · intro other otherFound holds
    cases eventFound.symm.trans otherFound
    exact ⟨settled holds record found, fits.2 (settled holds record found)⟩
  · intro occupies
    cases occupies
  · intro processError same
    cases same

theorem expire {phase : TurnPhase Message} {call : BackendCall Message}
    (coherent : Coherent settling state)
    (present : state.tasks.get? turnId = some ⟨.calling, false⟩)
    (goes : phase = .expiring ∨ phase = .committing (.unknown timeoutError false)) :
    Coherent settling ((state.setCall turnId call).setTask turnId phase) := by
  obtain ⟨record, event, found, eventFound, answered, fits⟩ := coherent.of_task present
  refine coherent.entering present rfl rfl rfl rfl (task_setTask _ turnId · phase) rfl id
    (fun _ _ => rfl) found answered ?_ (fun active => ⟨record, found, active⟩) ?_ ?_
  · intro other otherFound
    rcases goes with rfl | rfl <;> exact fits
  · exact fun _ => .task present rfl
  · intro processError same
    rcases goes with rfl | rfl <;> cases same

theorem cancelQueued {later : TurnRecord Message} (coherent : Coherent settling state)
    (found : state.session.turnLedger.get? turnId = some record)
    (queued : record.status = .queued) (cancelled : later.status = .cancelled)
    (error : later.error.isSome = true) :
    Coherent settling ((state.setRecord turnId later).setEvent turnId) := by
  obtain ⟨task, event, present, eventFound, -, fits⟩ := coherent.of_record found
  have settled : later.status.isActive = false := by
    rw [cancelled]
    rfl
  -- A queued record has a task that did not start, or one that is gone.
  have waiting : task.phase = .created ∨ task.phase = .starting ∨ task.phase = .ended := by
    cases phase : task.phase <;> simp_all [PhaseFits, TurnStatus.isActive]
  refine coherent.change turnId rfl rfl id ?_ ?_ ?_ ?_ ?_ ?_ ?_ (fun _ _ => id)
  · intro other different
    refine ⟨get?_set_of_ne _ _ different, rfl, ?_⟩
    rw [event_setEvent, if_neg different]
    rfl
  · rw [found]
    exact fun absent => by cases absent
  · have setEvent : ((state.setRecord turnId later).setEvent turnId).events.get? turnId =
        some true := by
      rw [event_setEvent, if_pos rfl]
      simp only [setRecord, eventFound, Option.map_some]
    have sameTask : ((state.setRecord turnId later).setEvent turnId).tasks.get? turnId =
      some task := present
    have newRecord : ((state.setRecord turnId later).setEvent turnId).session.turnLedger.get?
      turnId = some later := get?_set_self _ _ _
    rw [newRecord, sameTask, setEvent]
    refine .present (fun _ => .inr error) ?_
    have notInflight : later.status ≠ .inflight := by
      rw [cancelled]
      exact fun same => by cases same
    rcases waiting with phase | phase | phase
    · rw [phase]
      exact ⟨notInflight, fun _ => rfl⟩
    · rw [phase]
      exact ⟨notInflight, fun _ => rfl⟩
    · rw [phase]
      exact fun _ => ⟨settled, rfl⟩
  · intro other otherFound active
    rw [setEvent, setRecord, get?_set_self] at otherFound
    cases otherFound
    rw [settled] at active
    cases active
  · intro other otherPresent occupies
    exact .task otherPresent occupies
  · intro other processError otherPresent phaseIs
    cases present.symm.trans otherPresent
    rcases waiting with phase | phase | phase <;> cases phase.symm.trans phaseIs
  · intro other otherRecord _ _ otherFound active
    rw [setEvent, setRecord, get?_set_self] at otherFound
    cases otherFound
    rw [settled] at active
    cases active

theorem flag (coherent : Coherent settling state) : Coherent settling state.cancelActiveTask := by
  rcases cancelActiveTask_cases state with
    ⟨same, -⟩ | ⟨turnId, task, current, present, live, changed⟩
  · rw [same]
    exact coherent
  · rw [changed]
    obtain ⟨record, event, found, eventFound, answered, fits⟩ := coherent.of_task present
    refine coherent.change turnId rfl rfl id ?_ ?_ ?_ ?_ ?_ ?_ ?_ ?_
    · intro other different
      exact ⟨rfl, get?_set_of_ne _ _ different, rfl⟩
    · rw [found]
      exact fun absent => by cases absent
    · rw [get?_set_self, found, eventFound]
      exact .present answered fits
    · exact fun later laterFound active => ⟨later, laterFound, active⟩
    · intro later laterPresent occupies
      rw [get?_set_self] at laterPresent
      cases laterPresent
      exact .task present occupies
    · intro later processError laterPresent phase
      rw [get?_set_self] at laterPresent
      cases laterPresent
      exact coherent.unwinding present phase
    · exact fun _ _ _ _ _ _ => current
    · exact fun _ _ same => same

theorem keep (coherent : Coherent settling before)
    (ledger : after.session.turnLedger = before.session.turnLedger)
    (lock : after.sessionLock = before.sessionLock) (tasks : after.tasks = before.tasks)
    (activeTask : after.activeTask = before.activeTask) (events : after.events = before.events)
    (requests : ∀ {id request}, after.requests.get? id = some request →
      request.holdsLock = false ∨ before.requests.get? id = some request)
    (aborted : before.session.state = .aborted → after.session.state = .aborted) :
    Coherent settling after := by
  have holds {id : RequestId} {request : Request Message}
      (present : after.requests.get? id = some request) (holdsLock : request.holdsLock = true) :
      before.requests.get? id = some request := by
    rcases requests present with without | earlier
    · rw [without] at holdsLock
      cases holdsLock
    · exact earlier
  have claims {other : TurnId} (claim : Claims after other) : Claims before other := by
    cases claim with
    | checking present => exact .checking (holds present rfl)
    | active present isActive =>
      rw [ledger] at present
      exact .active present isActive
    | task present occupies =>
      rw [tasks] at present
      exact .task present occupies
  refine
    { turn := ?_
      exclusive := fun first second => coherent.exclusive (claims first) (claims second)
      current := ?_
      holder := ?_
      unwinding := ?_
      checking := ?_
      command := ?_ }
  · intro turnId
    rw [ledger, tasks, events]
    exact (coherent.turn turnId).mono aborted
  · rw [ledger, tasks, activeTask]
    exact coherent.current
  · intro id request present holdsLock
    rw [lock]
    exact coherent.holder (holds present holdsLock) holdsLock
  · rw [lock, tasks]
    exact coherent.unwinding
  · intro id request turnId present
    rw [ledger]
    exact coherent.checking (holds present rfl)
  · intro id turnId record present found
    rw [ledger] at found
    exact coherent.command (holds present rfl) found

theorem quiet (coherent : Coherent settling before) (same : Quiet before after) :
    Coherent settling after := by
  refine coherent.keep same.ledger same.lock same.tasks same.activeTask same.events ?_ same.aborted
  intro id request present
  rcases same.requests present with quiet | earlier
  · simp only [Request.isQuiet, Bool.and_eq_true, Bool.not_eq_true'] at quiet
    exact .inl quiet.2
  · exact .inr earlier

theorem release (coherent : Coherent settling state)
    (requests : ∀ {id request}, state.requests.get? id = some request → request.holdsLock = false)
    (tasks : ∀ {turnId task processError}, state.tasks.get? turnId = some task →
      task.phase ≠ .unwinding processError) : Coherent settling state.release := by
  refine
    { coherent with
      exclusive := ?_
      holder := ?_
      unwinding := ?_ }
  · intro first second firstClaims secondClaims
    have same {other : TurnId} (claim : Claims state.release other) : Claims state other := by
      cases claim with
      | checking present => exact .checking present
      | active present isActive => exact .active present isActive
      | task present occupies => exact .task present occupies
    exact coherent.exclusive (same firstClaims) (same secondClaims)
  · intro id request present holds
    rw [requests present] at holds
    cases holds
  · intro turnId task processError present phase
    exact absurd phase (tasks present)

theorem leave {id : RequestId} {request : Request Message} (reply : Reply)
    (coherent : Coherent settling state) (present : state.requests.get? id = some request)
    (holds : request.holdsLock = true) : Coherent settling (state.release.answer id reply) := by
  have lock := coherent.holder present holds
  have answered : Coherent settling (state.answer id reply) := coherent.quiet (.answer _ _ _)
  refine answered.release ?_ ?_
  · intro other otherRequest otherPresent
    by_cases same : other = id
    · subst other
      simp [answer] at otherPresent
    · rw [answer, get?_pop_of_ne _ same] at otherPresent
      cases otherHolds : otherRequest.holdsLock with
      | false => rfl
      | true =>
        cases lock.symm.trans (coherent.holder otherPresent otherHolds)
        exact absurd rfl same
  · intro turnId task processError taskPresent phase
    cases lock.symm.trans (coherent.unwinding taskPresent phase)

theorem unwound {processError : Bool} (coherent : Coherent settling state)
    (present : state.tasks.get? turnId = some task)
    (phase : task.phase = .unwinding processError) :
    Coherent settling (state.release.endTask turnId) := by
  have lock := coherent.unwinding present phase
  obtain ⟨record, event, found, -, answered, fits⟩ := coherent.of_task present
  rw [phase] at fits
  have ended : Coherent settling (state.endTask turnId) :=
    coherent.ending present rfl rfl rfl rfl rfl id (fun _ _ => rfl) found answered
      (fun _ => fits) (fun active => ⟨record, found, active⟩)
  refine ended.release ?_ ?_
  · intro id request requestPresent
    cases holds : request.holdsLock with
    | false => rfl
    | true => cases lock.symm.trans (coherent.holder requestPresent holds)
  · intro other otherTask otherError otherPresent otherPhase
    rw [task_endTask] at otherPresent
    by_cases same : other = turnId
    · rw [if_pos same] at otherPresent
      cases otherPresent
      cases otherPhase
    · rw [if_neg same] at otherPresent
      cases lock.symm.trans (coherent.unwinding otherPresent otherPhase)
      exact same rfl

theorem acquire {id : RequestId} {request : Request Message} {session : SessionContext Message}
    (coherent : Coherent settling state) (free : state.sessionLock = none)
    (ledger : session.turnLedger = state.session.turnLedger)
    (sameState : session.state = state.session.state)
    (checking : ∀ {message turnId}, request = .submit message (.checking turnId) →
      state.session.turnLedger.get? turnId = none ∧ ∀ other, ¬ Claims state other)
    (command : request = .command true → ∀ {turnId record},
      state.session.turnLedger.get? turnId = some record → record.status.isActive = false) :
    Coherent settling
      ((({ state with session := session } : State Message).acquire (.request id)).setRequest id
        request) := by
  have others {other : RequestId} {otherRequest : Request Message} (different : other ≠ id)
      (present : (state.requests.set id request).get? other = some otherRequest) :
      otherRequest.holdsLock = false := by
    rw [get?_set_of_ne _ _ different] at present
    exact coherent.not_holder free present
  have here {otherRequest : Request Message}
      (present : (state.requests.set id request).get? id = some otherRequest) :
      otherRequest = request := by
    rw [get?_set_self] at present
    exact (Option.some.inj present).symm
  have claims {other : TurnId}
      (claim : Claims ((({ state with session := session } : State Message).acquire
        (.request id)).setRequest id request) other) :
      (∃ message, request = .submit message (.checking other)) ∨ Claims state other := by
    cases claim with
    | @checking requestId message present =>
      by_cases same : requestId = id
      · subst requestId
        exact .inl ⟨message, (here present).symm⟩
      · cases others same present
    | active present isActive =>
      refine .inr (.active (?_ : state.session.turnLedger.get? other = _) isActive)
      rw [← ledger]
      exact present
    | task present occupies => exact .inr (.task present occupies)
  constructor
  · intro turnId
    have fits := coherent.turn turnId
    rw [← ledger, ← sameState] at fits
    exact fits
  · intro first second firstClaims secondClaims
    rcases claims firstClaims with ⟨message, isFirst⟩ | firstBefore
    · rcases claims secondClaims with ⟨other, isSecond⟩ | secondBefore
      · cases isFirst.symm.trans isSecond
        rfl
      · exact absurd secondBefore ((checking isFirst).2 second)
    · rcases claims secondClaims with ⟨other, isSecond⟩ | secondBefore
      · exact absurd firstBefore ((checking isSecond).2 first)
      · exact coherent.exclusive firstBefore secondBefore
  · intro turnId task record present live found isActive
    refine coherent.current present live (?_ : state.session.turnLedger.get? turnId = _) isActive
    rw [← ledger]
    exact found
  · intro other otherRequest present holds
    by_cases same : other = id
    · rw [same]
      rfl
    · rw [others same present] at holds
      cases holds
  · intro turnId task processError present phase
    exact absurd phase (coherent.not_unwinding free present)
  · intro other message turnId present
    by_cases same : other = id
    · subst other
      have absent := (checking (here present).symm).1
      rw [← ledger] at absent
      exact absent
    · cases others same present
  · intro other turnId record present found
    by_cases same : other = id
    · subst other
      refine command (here present).symm (?_ : state.session.turnLedger.get? turnId = _)
      rw [← ledger]
      exact found
    · cases others same present

theorem inactive_of_idle (idle : state.session.activeTurnId = none)
    (found : state.session.turnLedger.get? turnId = some record) :
    record.status.isActive = false := by
  simp only [SessionContext.activeTurnId, Option.map_eq_none_iff, List.find?_eq_none] at idle
  simpa using idle (turnId, record) (mem_of_get? found)

theorem unclaimed (coherent : Coherent settling state) (free : state.sessionLock = none)
    (active : state.session.state = .active) (idle : state.session.activeTurnId = none)
    (other : TurnId) : ¬ Claims state other := by
  intro claim
  cases claim with
  | checking present => cases coherent.not_holder free present
  | active present isActive =>
    rw [inactive_of_idle idle present] at isActive
    cases isActive
  | @task task present occupies =>
    obtain ⟨record, event, found, -, -, fits⟩ := coherent.of_task present
    have settled := inactive_of_idle idle found
    have notAborted : state.session.state ≠ .aborted := by
      rw [active]
      exact fun same => by cases same
    have notInflight : record.status ≠ .inflight := by
      intro inflight
      rw [inflight] at settled
      cases settled
    cases phase : task.phase with
    | created | starting | ended =>
      rw [phase] at occupies
      cases occupies
    | unwinding processError => exact coherent.not_unwinding free present phase
    | calling | expiring | interrupted | committing outcome =>
      rw [phase] at fits
      rcases fits with inflight | ⟨-, aborted⟩
      · exact notInflight inflight
      · exact notAborted aborted

theorem add (config : ServerConfig Message) (request : MessageRequest Message)
    (coherent : Coherent settling state) (free : state.sessionLock = none)
    (unclaimed : ∀ other, ¬ Claims state other) :
    Coherent settling (createTurn config state turnId request) := by
  have claims {other : TurnId}
      (claim : Claims (createTurn config state turnId request) other) : other = turnId := by
    by_contra different
    refine unclaimed other ?_
    cases claim with
    | checking present => exact .checking present
    | active present isActive =>
      refine .active (?_ : state.session.turnLedger.get? other = _) isActive
      rw [← get?_set_of_ne _ _ different]
      exact present
    | task present occupies =>
      refine .task (?_ : state.tasks.get? other = _) occupies
      rw [← get?_set_of_ne _ _ different]
      exact present
  refine
    { turn := ?_
      exclusive := fun first second => (claims first).trans (claims second).symm
      current := ?_
      holder := coherent.holder
      unwinding := ?_
      checking := ?_
      command := ?_ }
  · intro other
    simp only [createTurn, setRecord, setTask]
    by_cases same : other = turnId
    · subst other
      rw [get?_set_self, get?_set_self, get?_set_self]
      refine .present (answered_of_active rfl) ⟨?_, ?_⟩
      · intro inflight
        cases inflight
      · intro settled
        cases settled
    · rw [get?_set_of_ne _ _ same, get?_set_of_ne _ _ same,
        get?_set_of_ne _ _ same]
      exact coherent.turn other
  · intro other task record present live found isActive
    rw [claims (.active found isActive)]
    rfl
  · intro other task processError present phase
    by_cases same : other = turnId
    · subst other
      simp only [createTurn, setRecord, setTask, get?_set_self] at present
      cases present
      cases phase
    · simp only [createTurn, setRecord, setTask,
        get?_set_of_ne _ _ same] at present
      exact absurd phase (coherent.not_unwinding free present)
  · intro id message other present
    cases coherent.not_holder free present
  · intro id other record present found
    cases coherent.not_holder free present

theorem create (config : ServerConfig Message) {id : RequestId} {reply : Reply}
    {request : MessageRequest Message} (coherent : Coherent settling state)
    (checking : state.requests.get? id = some (.submit request (.checking turnId))) :
    Coherent settling ((createTurn config state turnId request).release.answer id reply) := by
  have left : Coherent settling (state.release.answer id reply) :=
    coherent.leave reply checking rfl
  have absent := coherent.checking checking
  have unclaimed (other : TurnId) : ¬ Claims (state.release.answer id reply) other := by
    intro claim
    cases claim with
    | checking present => cases left.not_holder rfl present
    | active present isActive =>
      cases coherent.exclusive (.active present isActive) (.checking checking)
      cases absent.symm.trans present
    | task present occupies =>
      cases coherent.exclusive (.task present occupies) (.checking checking)
      obtain ⟨record, event, found, -⟩ := coherent.of_task present
      cases absent.symm.trans found
  exact left.add config request rfl unclaimed

theorem unwind {error : TurnError} {processError : Bool} (coherent : Coherent settling state)
    (present : state.tasks.get? turnId = some task) (occupies : task.phase.occupies = true)
    (free : state.sessionLock = none) :
    Coherent settling
      (((state.unknownRecord turnId record error).acquire (.turn turnId)).setTask turnId
        (.unwinding processError)) := by
  obtain ⟨earlier, event, earlierFound, eventFound, -, -⟩ := coherent.of_task present
  have ledger (other : TurnId) (different : other ≠ turnId) :
      (state.unknownRecord turnId record error).session.turnLedger.get? other =
        state.session.turnLedger.get? other := by
    simp only [unknownRecord, desync_turnLedger]
    exact get?_set_of_ne _ _ different
  have settled {later : TurnRecord Message}
      (found : (state.unknownRecord turnId record error).session.turnLedger.get? turnId =
        some later) : later.status.isActive = false ∧ Answered later := by
    simp only [unknownRecord, desync_turnLedger, get?_set_self] at found
    cases found
    exact ⟨rfl, fun _ => .inr rfl⟩
  have claims {other : TurnId}
      (claim : Claims (((state.unknownRecord turnId record error).acquire
        (.turn turnId)).setTask turnId (.unwinding processError)) other) :
      Claims state other := by
    cases claim with
    | checking present => exact .checking present
    | active found isActive =>
      by_cases same : other = turnId
      · subst other
        rw [(settled found).1] at isActive
        cases isActive
      · refine .active (?_ : state.session.turnLedger.get? other = _) isActive
        rw [← ledger other same]
        exact found
    | task otherPresent otherOccupies =>
      by_cases same : other = turnId
      · subst other
        exact .task present occupies
      · rw [task_setTask, if_neg same] at otherPresent
        exact .task otherPresent otherOccupies
  refine
    { turn := ?_
      exclusive := fun first second => coherent.exclusive (claims first) (claims second)
      current := ?_
      holder := ?_
      unwinding := ?_
      checking := ?_
      command := ?_ }
  · intro other
    by_cases same : other = turnId
    · subst other
      rw [task_setTask, if_pos rfl]
      have found : ∃ later, (state.unknownRecord turnId record error).session.turnLedger.get?
          turnId = some later := by
        simp only [unknownRecord, desync_turnLedger, get?_set_self]
        exact ⟨_, rfl⟩
      obtain ⟨later, found⟩ := found
      have sameRecord : (((state.unknownRecord turnId record error).acquire
        (.turn turnId)).setTask turnId (.unwinding processError)).session.turnLedger.get?
        turnId = some later := found
      have sameEvent : (((state.unknownRecord turnId record error).acquire
        (.turn turnId)).setTask turnId (.unwinding processError)).events.get? turnId =
        some event := eventFound
      rw [sameRecord, sameEvent]
      exact .present (settled found).2 (settled found).1
    · rw [task_setTask, if_neg same]
      have sameRecord : (((state.unknownRecord turnId record error).acquire
        (.turn turnId)).setTask turnId (.unwinding processError)).session.turnLedger.get?
        other = state.session.turnLedger.get? other := ledger other same
      rw [sameRecord]
      exact (coherent.turn other).mono (fun aborted => desync_aborted aborted)
  · intro other otherTask otherRecord otherPresent live found isActive
    by_cases same : other = turnId
    · subst other
      rw [(settled found).1] at isActive
      cases isActive
    · rw [task_setTask, if_neg same] at otherPresent
      refine coherent.current otherPresent live
        (?_ : state.session.turnLedger.get? other = _) isActive
      rw [← ledger other same]
      exact found
  · intro id request requestPresent holds
    rw [coherent.not_holder free requestPresent] at holds
    cases holds
  · intro other otherTask otherError otherPresent otherPhase
    by_cases same : other = turnId
    · rw [same]
      rfl
    · rw [task_setTask, if_neg same] at otherPresent
      exact absurd otherPhase (coherent.not_unwinding free otherPresent)
  · intro id request other requestPresent
    cases coherent.not_holder free requestPresent
  · intro id other otherRecord requestPresent
    cases coherent.not_holder free requestPresent

end Coherent

def abortedRecord (now : Nat) (record : TurnRecord Message) : TurnRecord Message :=
  if record.status.isActive then
    { record with
      status := .unknown
      error := some abortedError
      updatedAt := now }
  else record

theorem record_abortLedger (state : State Message) (turnId : TurnId) :
    state.abortLedger.session.turnLedger.get? turnId =
      (state.session.turnLedger.get? turnId).map (abortedRecord state.now) :=
  get?_mapValues _ _ _

theorem inactive_abortedRecord (now : Nat) (record : TurnRecord Message) :
    (abortedRecord now record).status.isActive = false := by
  unfold abortedRecord
  cases active : record.status.isActive with
  | false => simp [active]
  | true => rfl

namespace Coherent

variable {settling : Prop} {state : State Message}

theorem abortLedger (coherent : Coherent settling state) : Coherent settling state.abortLedger := by
  have inactive {turnId : TurnId} {record : TurnRecord Message}
      (found : state.abortLedger.session.turnLedger.get? turnId = some record) :
      record.status.isActive = false := by
    rw [record_abortLedger] at found
    obtain ⟨earlier, -, rfl⟩ := Option.map_eq_some_iff.mp found
    exact inactive_abortedRecord _ _
  have claims {other : TurnId} (claim : Claims state.abortLedger other) : Claims state other := by
    cases claim with
    | checking present => exact .checking present
    | active found isActive =>
      rw [inactive found] at isActive
      cases isActive
    | task present occupies => exact .task present occupies
  refine
    { coherent with
      turn := ?_
      exclusive := fun first second => coherent.exclusive (claims first) (claims second)
      current := ?_
      checking := ?_
      command := fun _ found => inactive found }
  · intro turnId
    have sameTask : state.abortLedger.tasks.get? turnId = state.tasks.get? turnId := rfl
    have fits := coherent.turn turnId
    rw [record_abortLedger, sameTask, State.abortLedger, abortEvents, get?_mapValues]
    cases found : state.session.turnLedger.get? turnId with
    | none =>
      rw [found] at fits
      generalize state.tasks.get? turnId = task at fits ⊢
      generalize state.events.get? turnId = event at fits ⊢
      cases fits
      exact .absent
    | some record =>
      obtain ⟨task, event, present, eventFound, answered, phaseFits⟩ := coherent.of_record found
      rw [present, eventFound]
      have settled := inactive_abortedRecord state.now record
      have notInflight : (abortedRecord state.now record).status ≠ .inflight := by
        intro inflight
        rw [inflight] at settled
        cases settled
      refine .present ?_ ?_
      · unfold abortedRecord
        cases active : record.status.isActive with
        | true => exact fun _ => .inr rfl
        | false => simpa using answered
      · -- The event is set now, unless it was there with a settled record before.
        have eventSet (was : record.status.isActive = false → event = true) :
            (event || record.status.isActive) = true := by
          cases active : record.status.isActive with
          | true => simp
          | false => simp [was active]
        cases phase : task.phase with
        | created | starting =>
          rw [phase] at phaseFits
          exact ⟨notInflight, fun _ => eventSet phaseFits.2⟩
        | calling | expiring | interrupted | committing outcome => exact .inr ⟨settled, rfl⟩
        | unwinding processError => exact settled
        | ended =>
          rw [phase] at phaseFits
          exact fun holds => ⟨settled, eventSet (fun _ => (phaseFits holds).2)⟩
  · intro turnId task record present live found isActive
    rw [inactive found] at isActive
    cases isActive
  · intro id request turnId present
    rw [record_abortLedger, coherent.checking present]
    rfl

theorem move {config : ServerConfig Message} {attributed : Prop} {before after : State Message}
    (coherent : Coherent settling before)
    (moves : Move config settling attributed before after) : Coherent settling after := by
  cases moves with
  | quiet same => exact coherent.quiet same
  | accept free active idle new sameLedger sameState =>
    refine coherent.acquire free sameLedger sameState ?_ ?_
    · intro message turnId same
      cases same
      exact ⟨new, coherent.unclaimed free active idle⟩
    · intro same
      cases same
  | create checking => exact coherent.create config checking
  | leave present holds => exact coherent.leave _ present holds
  | command free idle =>
    refine coherent.acquire free rfl rfl ?_ ?_
    · intro message turnId same
      cases same
    · exact fun _ _ _ found => inactive_of_idle idle found
  | flag => exact coherent.flag
  | @abort id request flagged without =>
    refine coherent.keep rfl rfl rfl rfl rfl ?_ (fun aborted => aborted)
    intro other otherRequest present
    rcases request_setRequest present with same | earlier
    · rw [same]
      exact .inl without
    · exact .inr earlier
  | abortHolding flagged free =>
    refine coherent.acquire free rfl rfl ?_ ?_
    · intro message turnId same
      cases same
    · intro same
      cases same
  | clearForAbort | clearForUnwinding | openScope | cancelCall | failCall | endCall =>
    exact coherent.keep rfl rfl rfl rfl rfl (fun present => .inr present) (fun aborted => aborted)
  | abortLedger => exact coherent.abortLedger
  | cancelQueued present queued => exact coherent.cancelQueued present queued rfl rfl
  | queue present goes => exact coherent.queue present goes
  | start present phase free found queued => exact coherent.start present phase found queued _
  | finalize present => exact coherent.finalize present
  | commit present => exact coherent.commit present
  | unwind present phase free =>
    refine coherent.unwind present ?_ free
    rw [phase]
    rfl
  | finish present finishes => exact coherent.finish present finishes
  | vanish present phase settled => exact coherent.vanish present phase settled
  | unwound present phase => exact coherent.unwound present phase
  | expire present found unfinished goes => exact coherent.expire present goes

theorem moves {config : ServerConfig Message} {attributed : Prop} {before after : State Message}
    (coherent : Coherent settling before)
    (path : Moves config settling attributed before after) : Coherent settling after := by
  induction path with
  | refl => exact coherent
  | tail _ last ih => exact ih.move last

theorem initial : Coherent settling (State.initial : State Message) := by
  refine
    { turn := fun _ => .absent
      exclusive := ?_
      current := ?_
      holder := ?_
      unwinding := ?_
      checking := ?_
      command := ?_ }
  · intro first second claim
    cases claim with
    | checking present => cases present
    | active present => cases present
    | task present => cases present
  · intro turnId task record present
    cases present
  · intro id request present
    cases present
  · intro turnId task processError present
    cases present
  · intro id request turnId present
    cases present
  · intro id turnId record present
    cases present

end Coherent

theorem coherent_step (config : ServerConfig Message) {action : Action Message}
    (coherent : Coherent settling state) (safe : settling → SafeDelivery state action) :
    Coherent settling (step config state action) :=
  coherent.moves (moves_of_step config state action safe (fun impossible : False => impossible.elim))

/-- A turn whose task has ended is settled, and what blocks the session still runs. -/
structure TurnsSettled (state : State Message) : Prop where
  ended : ∀ turnId task, state.tasks.get? turnId = some task → task.phase.isEnded = true →
    ∃ record, state.session.turnLedger.get? turnId = some record ∧
      record.status.isActive = false ∧
      (record.status ≠ .committed → record.error.isSome = true) ∧
      state.events.get? turnId = some true
  live : ∀ turnId record, state.session.turnLedger.get? turnId = some record →
    record.status.isActive = true →
    ∃ task, state.tasks.get? turnId = some task ∧ task.phase.isEnded = false
  blocking : ∀ turnId, state.session.activeTurnId = some turnId →
    ∃ task, state.tasks.get? turnId = some task ∧ task.phase.isEnded = false

theorem Coherent.settled {state : State Message} (coherent : Coherent True state) :
    TurnsSettled state := by
  have live (turnId : TurnId) (record : TurnRecord Message)
      (found : state.session.turnLedger.get? turnId = some record)
      (active : record.status.isActive = true) :
      ∃ task, state.tasks.get? turnId = some task ∧ task.phase.isEnded = false := by
    obtain ⟨task, event, present, -, -, fits⟩ := coherent.of_record found
    refine ⟨task, present, ?_⟩
    cases phase : task.phase with
    | ended =>
      rw [phase] at fits
      rw [(fits trivial).1] at active
      cases active
    | _ => rfl
  refine
    { ended := ?_
      live := live
      blocking := ?_ }
  · intro turnId task present ended
    obtain ⟨record, event, found, eventFound, answered, fits⟩ := coherent.of_task present
    have phase : task.phase = .ended := by
      cases phase : task.phase <;> rw [phase] at ended <;> first | rfl | cases ended
    rw [phase] at fits
    obtain ⟨settled, set⟩ := fits trivial
    refine ⟨record, found, settled, ?_, by rw [eventFound, set]⟩
    exact fun uncommitted => (answered settled).resolve_left uncommitted
  · intro turnId blocks
    obtain ⟨entry, found, same⟩ := Option.map_eq_some_iff.mp blocks
    subst same
    have active := List.find?_some found
    exact live entry.1 entry.2 (get?_of_mem (List.mem_of_find?_eq_some found)) active

theorem not_settled_of_lost {turnId : TurnId} {task : TurnTask Message}
    {record : TurnRecord Message} (present : state.tasks.get? turnId = some task)
    (cancelled : task.cancelRequested = true) (loses : task.phase.losesCancel = true)
    (found : state.session.turnLedger.get? turnId = some record)
    (active : record.status.isActive = true) : ¬ TurnsSettled (state.resumeTurn turnId) := by
  intro settled
  have gone : (state.resumeTurn turnId).tasks.get? turnId = some ⟨.ended, false⟩ ∧
      (state.resumeTurn turnId).session.turnLedger = state.session.turnLedger := by
    simp only [resumeTurn, present, if_pos cancelled]
    have endsTask : (state.endTask turnId).tasks.get? turnId = some ⟨.ended, false⟩ ∧
        (state.endTask turnId).session.turnLedger = state.session.turnLedger := by
      rw [task_endTask, if_pos rfl]
      exact ⟨rfl, rfl⟩
    cases phase : task.phase with
    | created =>
      simp only [deliverCancel]
      rw [task_setTask, if_pos rfl]
      exact ⟨rfl, rfl⟩
    | starting | interrupted | committing outcome => exact endsTask
    | calling | expiring | unwinding processError | ended =>
      rw [phase] at loses
      cases loses
  obtain ⟨later, laterFound, inactive, -⟩ := settled.ended turnId _ gone.1 rfl
  rw [gone.2, found] at laterFound
  cases laterFound
  rw [active] at inactive
  cases inactive

/-- In every run all turns settle exactly if no cancellation reaches a turn that waits to start
or to record its outcome. -/
theorem turns_settled_iff_safe_delivery (config : ServerConfig Message)
    (actions : List (Action Message)) :
    (∀ past, past <+: actions → TurnsSettled (Runs.run (step config) initial past)) ↔
      Runs.Admits (step config) SafeDelivery initial actions := by
  constructor
  · intro settled
    apply Runs.admits_of_prefixes
    intro past action early
    cases action with
    | resumeTurn turnId =>
      intro task present cancelled loses record found
      have after := settled (past ++ [.resumeTurn turnId]) early
      rw [Runs.run_snoc] at after
      cases active : record.status.isActive with
      | false => rfl
      | true => exact absurd after (not_settled_of_lost present cancelled loses found active)
    | _ => trivial
  · intro admitted past early
    have coherent : Coherent True (Runs.run (step config) initial past) :=
      Runs.prefix_invariant (fun _ _ coherent safe => coherent_step config coherent (fun _ => safe))
        Coherent.initial admitted early
    exact coherent.settled

def plainConfig : ServerConfig String :=
  { boundSessionId := "session"
    maxTurns := 1
    multiMessageInput := false
    historyInjection := false
    phaseOneBackend := none
    role := fun _ => .user
    content := some
    fingerprint := fun messages => messages.headD "" }

/-- A turn is submitted and the server shut down before the turn's task runs for the first
time. -/
def shutdownBeforeStart : List (Action String) :=
  [.arriveSubmit
      { turnId := some "turn"
        messages := ["hello"] },
    .passPause 0, .enterSubmit 0 "", .answerHealth 0 true, .beginShutdown, .shutdownTurns,
    .resumeTurn "turn"]

theorem queued_forever_after_shutdown :
    ¬ TurnsSettled (Runs.run (step plainConfig) initial shutdownBeforeStart) := by
  intro settled
  obtain ⟨record, found, inactive, -⟩ := settled.ended "turn" ⟨.ended, false⟩ rfl rfl
  have queued : ((Runs.run (step plainConfig) initial
      shutdownBeforeStart).session.turnLedger.get? "turn").map TurnRecord.status =
      some .queued := by
    decide +kernel
  rw [found, Option.map_some] at queued
  rw [Option.some.inj queued] at inactive
  cases inactive

end Dressage.Blackbox

/-
Waits that leave out paused time.

A wait keeps a deadline that moves on by every pause it sees. While generation
is paused it waits for the resume, otherwise for its deadline. The wait of the
server does not look up before the deadline fires, and when a pause it watched is
over it cancels the call and waits on for that to end; the wait of the rollout
proxy is also woken by every pause and resume.

Time passes only while the waiter is blocked, and never past its timer. What the
waiter has to do at one instant it does before the clock moves on.
-/

import Dressage.Blackbox.TurnSettlement

namespace Dressage.Blackbox

open Lib

inductive WaitPhase
  | looping
  | running (signalled : Bool)
  | suspended (since : Nat) (resumed : Bool)
  | returned
  | timedOut
deriving DecidableEq, Repr

structure Wait where
  now : Nat
  paused : Bool
  finished : Bool
  cancelled : Bool
  phase : WaitPhase
  deadline : Nat
  unpaused : Nat
  overlooked : Nat
deriving DecidableEq, Repr

inductive WaitEvent
  | pass (ticks : Nat)
  | pause
  | resume
  | finish
  | wake
deriving DecidableEq, Repr

namespace Wait

def start (now timeout : Nat) (paused : Bool) : Wait :=
  { now := now
    paused := paused
    finished := false
    cancelled := false
    phase := .looping
    deadline := now + timeout
    unpaused := 0
    overlooked := 0 }

def ended (wait : Wait) : Bool :=
  match wait.phase with
  | .returned => true
  | .timedOut => true
  | _ => false

def isRunning (wait : Wait) : Bool :=
  match wait.phase with
  | .running _ => true
  | _ => false

def pass (wait : Wait) (ticks : Nat) : Wait :=
  { wait with
    now := wait.now + ticks
    unpaused := if wait.ended || wait.paused then wait.unpaused else wait.unpaused + ticks
    overlooked :=
      if wait.isRunning && wait.paused then wait.overlooked + ticks else wait.overlooked }

/-- `pause_state_changed.set()`, for a wait that watches it. -/
def signal (watches : Bool) : WaitPhase → WaitPhase
  | .running signalled => .running (signalled || watches)
  | phase => phase

def pause (watches : Bool) (wait : Wait) : Wait :=
  { wait with
    paused := true
    phase := signal watches wait.phase }

def resume (watches : Bool) (wait : Wait) : Wait :=
  { wait with
    paused := false
    phase :=
      match wait.phase with
      | .suspended since _ => .suspended since true
      | phase => signal watches phase }

def loopOnce (wait : Wait) : Wait :=
  if wait.finished then { wait with phase := .returned }
  else if wait.paused then { wait with phase := .suspended wait.now false }
  else if wait.deadline ≤ wait.now then { wait with phase := .timedOut }
  else { wait with phase := .running false }

def wake (cancels : Bool) (wait : Wait) : Wait :=
  match wait.phase with
  | .looping => wait.loopOnce
  | .running signalled =>
    if wait.finished then { wait with phase := .returned }
    else if signalled then { wait with phase := .looping }
    else if wait.deadline ≤ wait.now then { wait with phase := .timedOut }
    else wait
  | .suspended since resumed =>
    if wait.finished then { wait with phase := .returned }
    else if resumed then
      { wait with
        cancelled := wait.cancelled || cancels
        deadline := wait.deadline + (wait.now - since)
        phase := .looping }
    else wait
  | .returned => wait
  | .timedOut => wait

/-- A wait that watches pauses waits for an event, the other one for a call it can cancel. -/
def step (watches : Bool) (wait : Wait) : WaitEvent → Wait
  | .pass ticks => wait.pass ticks
  | .pause => wait.pause watches
  | .resume => wait.resume watches
  | .finish => { wait with finished := true }
  | .wake => wait.wake (!watches)

/-- `BlackboxServer._wait_for_backend_call_excluding_pause` -/
def backendCallStep : Wait → WaitEvent → Wait := step false

/-- `RolloutLLMProxy._wait_event_excluding_pause` with a timeout -/
def proxyEventStep : Wait → WaitEvent → Wait := step true

def blockedFor (wait : Wait) (ticks : Nat) : Bool :=
  match wait.phase with
  | .looping => false
  | .running signalled =>
    !wait.finished && !signalled && decide (wait.now + ticks ≤ wait.deadline)
  | .suspended _ resumed => !wait.finished && !resumed
  | .returned => true
  | .timedOut => true

def Clocked (wait : Wait) : WaitEvent → Prop
  | .pass ticks => wait.blockedFor ticks = true
  | _ => True

/-- No time passes while generation is paused and the wait is for its deadline. -/
def SeesPauses (wait : Wait) : WaitEvent → Prop
  | .pass ticks => wait.isRunning = true → wait.paused = true → ticks = 0
  | _ => True

instance (wait : Wait) (event : WaitEvent) : Decidable (Clocked wait event) := by
  cases event <;> dsimp only [Clocked] <;> infer_instance

instance (wait : Wait) (event : WaitEvent) : Decidable (SeesPauses wait event) := by
  cases event <;> dsimp only [SeesPauses] <;> infer_instance

def DeadlineFits (timeout : Nat) (wait : Wait) : Prop :=
  match wait.phase with
  | .looping | .running _ =>
    wait.now ≤ wait.deadline ∧ wait.deadline + wait.unpaused + wait.overlooked = wait.now + timeout
  | .suspended since resumed =>
    since ≤ wait.now ∧ since ≤ wait.deadline ∧ (resumed = false → wait.paused = true) ∧
      wait.deadline + wait.unpaused + wait.overlooked = since + timeout
  | .returned => True
  | .timedOut => wait.unpaused + wait.overlooked = timeout

section Deadline

variable {timeout : Nat} {wait : Wait}

theorem deadlineFits_start (now timeout : Nat) (paused : Bool) :
    DeadlineFits timeout (start now timeout paused) := by
  refine ⟨?_, ?_⟩
  · exact Nat.le_add_right now timeout
  · rfl

theorem deadlineFits_pass {ticks : Nat} (fits : DeadlineFits timeout wait)
    (clocked : wait.blockedFor ticks = true) : DeadlineFits timeout (wait.pass ticks) := by
  rcases wait with ⟨now, paused, finished, cancelled, phase, deadline, unpaused, overlooked⟩
  cases phase with
  | looping => cases clocked
  | running signalled =>
    simp only [blockedFor, Bool.and_eq_true, decide_eq_true_eq] at clocked
    cases paused with
    | true | false =>
      simp [DeadlineFits, pass, ended, isRunning] at fits ⊢
      omega
  | suspended since resumed =>
    simp only [blockedFor, Bool.and_eq_true, Bool.not_eq_true'] at clocked
    -- Generation is paused for as long as nobody resumed it.
    have paused : paused = true := fits.2.2.1 clocked.2
    subst paused
    simp [DeadlineFits, pass, ended, isRunning] at fits ⊢
    omega
  | returned => trivial
  | timedOut => exact fits

variable (watches : Bool)

theorem deadlineFits_pause (fits : DeadlineFits timeout wait) :
    DeadlineFits timeout (wait.pause watches) := by
  rcases wait with ⟨now, paused, finished, cancelled, phase, deadline, unpaused, overlooked⟩
  cases phase with
  | suspended since resumed => exact ⟨fits.1, fits.2.1, fun _ => rfl, fits.2.2.2⟩
  | looping | running signalled | returned | timedOut => exact fits

theorem deadlineFits_resume (fits : DeadlineFits timeout wait) :
    DeadlineFits timeout (wait.resume watches) := by
  rcases wait with ⟨now, paused, finished, cancelled, phase, deadline, unpaused, overlooked⟩
  cases phase with
  | suspended since resumed =>
    refine ⟨fits.1, fits.2.1, ?_, fits.2.2.2⟩
    intro unresumed
    cases unresumed
  | looping | running signalled | returned | timedOut => exact fits

theorem deadlineFits_loopOnce (early : wait.now ≤ wait.deadline)
    (fits : wait.deadline + wait.unpaused + wait.overlooked = wait.now + timeout) :
    DeadlineFits timeout wait.loopOnce := by
  unfold loopOnce
  split
  · trivial
  · split
    · next paused => exact ⟨Nat.le_refl _, early, fun _ => paused, fits⟩
    · split
      · simp only [DeadlineFits]
        omega
      · exact ⟨early, fits⟩

theorem deadlineFits_wake (cancels : Bool) (fits : DeadlineFits timeout wait) :
    DeadlineFits timeout (wait.wake cancels) := by
  unfold wake
  split
  · next phase =>
      rw [DeadlineFits, phase] at fits
      exact deadlineFits_loopOnce fits.1 fits.2
  · next signalled phase =>
      rw [DeadlineFits, phase] at fits
      split
      · trivial
      · split
        · exact fits
        · split
          · simp only [DeadlineFits]
            omega
          · rw [DeadlineFits, phase]
            exact fits
  · next since resumed phase =>
      rw [DeadlineFits, phase] at fits
      split
      · trivial
      · split
        · simp only [DeadlineFits]
          omega
        · rw [DeadlineFits, phase]
          exact fits
  · exact fits
  · exact fits

theorem deadlineFits_step {event : WaitEvent} (fits : DeadlineFits timeout wait)
    (clocked : Clocked wait event) : DeadlineFits timeout (step watches wait event) := by
  cases event with
  | pass ticks => exact deadlineFits_pass fits clocked
  | pause => exact deadlineFits_pause watches fits
  | resume => exact deadlineFits_resume watches fits
  | finish => exact fits
  | wake => exact deadlineFits_wake _ fits

end Deadline

structure Watched (wait : Wait) : Prop where
  seen : wait.overlooked = 0
  running : wait.phase = .running false → wait.paused = false

variable {wait : Wait}

theorem Watched.of_loopOnce (seen : wait.overlooked = 0) : Watched wait.loopOnce := by
  unfold loopOnce
  split
  · exact ⟨seen, fun running => by cases running⟩
  · split
    · exact ⟨seen, fun running => by cases running⟩
    · next unpaused =>
        split
        · exact ⟨seen, fun running => by cases running⟩
        · exact ⟨seen, fun _ => Bool.eq_false_iff.mpr unpaused⟩

theorem Watched.of_wake (cancels : Bool) (watched : Watched wait) :
    Watched (wait.wake cancels) := by
  unfold wake
  split
  · exact .of_loopOnce watched.seen
  · split
    · exact ⟨watched.seen, fun running => by cases running⟩
    · split
      · exact ⟨watched.seen, fun running => by cases running⟩
      · split
        · exact ⟨watched.seen, fun running => by cases running⟩
        · exact watched
  · split
    · exact ⟨watched.seen, fun running => by cases running⟩
    · split
      · exact ⟨watched.seen, fun running => by cases running⟩
      · exact watched
  · exact watched
  · exact watched

theorem Watched.of_pass {ticks : Nat} (watched : Watched wait)
    (clocked : wait.blockedFor ticks = true) : Watched (wait.pass ticks) := by
  rcases wait with ⟨now, paused, finished, cancelled, phase, deadline, unpaused, overlooked⟩
  refine
    { seen := ?_
      running := watched.running }
  cases phase with
  | running signalled =>
    cases signalled with
    | true => simp [blockedFor] at clocked
    | false =>
      have unpaused : paused = false := watched.running rfl
      rw [pass, unpaused, Bool.and_false]
      exact watched.seen
  | looping | suspended since resumed | returned | timedOut => exact watched.seen

theorem watched_step {event : WaitEvent} (watched : Watched wait) (clocked : Clocked wait event) :
    Watched (proxyEventStep wait event) := by
  cases event with
  | pass ticks => exact watched.of_pass clocked
  | pause =>
    refine
      { seen := watched.seen
        running := ?_ }
    intro running
    simp only [proxyEventStep, step, pause] at running
    cases phase : wait.phase with
    | running signalled => simp [phase, signal] at running
    | looping | suspended since resumed | returned | timedOut =>
      simp [phase, signal] at running
  | resume => exact ⟨watched.seen, fun _ => rfl⟩
  | finish => exact ⟨watched.seen, watched.running⟩
  | wake => exact watched.of_wake _

theorem overlooked_wake (cancels : Bool) (wait : Wait) :
    (wait.wake cancels).overlooked = wait.overlooked := by
  unfold wake
  split
  · unfold loopOnce
    split
    · rfl
    · split
      · rfl
      · split <;> rfl
  · split
    · rfl
    · split
      · rfl
      · split <;> rfl
  · split
    · rfl
    · split <;> rfl
  · rfl
  · rfl

variable (watches : Bool)

theorem overlooked_step (wait : Wait) (event : WaitEvent) :
    SeesPauses wait event ∧ (step watches wait event).overlooked = wait.overlooked ∨
      ¬ SeesPauses wait event ∧ wait.overlooked < (step watches wait event).overlooked := by
  cases event with
  | pass ticks =>
    simp only [step, pass, SeesPauses]
    cases running : wait.isRunning with
    | false => exact .inl ⟨fun impossible => (by cases impossible), rfl⟩
    | true =>
      cases paused : wait.paused with
      | false => exact .inl ⟨fun _ impossible => (by cases impossible), rfl⟩
      | true =>
        rcases Nat.eq_zero_or_pos ticks with zero | positive
        · exact .inl ⟨fun _ _ => zero, by simp [zero]⟩
        · refine .inr ⟨fun sees => ?_, ?_⟩
          · exact absurd (sees rfl rfl) (Nat.ne_of_gt positive)
          · simp only [Bool.and_self, if_true]
            omega
  | pause | resume | finish => exact .inl ⟨trivial, rfl⟩
  | wake => exact .inl ⟨trivial, overlooked_wake _ wait⟩

theorem overlooked_run (wait : Wait) (events : List WaitEvent) :
    wait.overlooked ≤ (Runs.run (step watches) wait events).overlooked ∧
      ((Runs.run (step watches) wait events).overlooked = wait.overlooked ↔
        Runs.Admits (step watches) SeesPauses wait events) := by
  induction events generalizing wait with
  | nil => exact ⟨Nat.le_refl _, iff_of_true rfl trivial⟩
  | cons event rest ih =>
    rw [Runs.run_cons, Runs.Admits]
    obtain ⟨grows, stays⟩ := ih (step watches wait event)
    rcases overlooked_step watches wait event with ⟨sees, same⟩ | ⟨unseen, more⟩
    · rw [same] at grows stays
      exact ⟨grows, stays.trans (and_iff_right sees).symm⟩
    · refine ⟨by omega, iff_of_false (by omega) (fun both => unseen both.1)⟩

theorem deadlineFits_run {now timeout : Nat} {paused : Bool} {events : List WaitEvent}
    (clocked : Runs.Admits (step watches) Clocked (start now timeout paused) events) :
    DeadlineFits timeout (Runs.run (step watches) (start now timeout paused) events) :=
  Runs.run_invariant (fun _ _ fits clocked => deadlineFits_step watches fits clocked)
    (deadlineFits_start now timeout paused) clocked

theorem timeout_eq {now timeout : Nat} {paused : Bool} {events : List WaitEvent}
    (clocked : Runs.Admits (step watches) Clocked (start now timeout paused) events)
    (expired : (Runs.run (step watches) (start now timeout paused) events).phase = .timedOut) :
    (Runs.run (step watches) (start now timeout paused) events).unpaused +
      (Runs.run (step watches) (start now timeout paused) events).overlooked = timeout := by
  have fits := deadlineFits_run watches clocked
  rw [DeadlineFits, expired] at fits
  exact fits

end Wait

variable {Message : Type}

/-- What the wait for its backend call has made of a turn: a `TimeoutError` is one of the two ways
the turn's deadline passes, and a call that ended raised or returned its result. -/
def State.awaitCall (state : State Message) (turnId : TurnId) (waits : Bool)
    (result : CallResult Message) (wait : Wait) : State Message :=
  match wait.phase with
  | .timedOut => state.expireTurn turnId waits
  | .returned =>
    match State.outcomeOf result with
    | none => state.interrupt turnId
    | some outcome => state.conclude turnId outcome
  | _ => if wait.cancelled then state.cancelCall turnId else state

theorem resumeTurn_eq_awaitCall {state : State Message} {turnId : TurnId} {wait : Wait}
    {result : CallResult Message} (waits : Bool)
    (calling : state.tasks.get? turnId = some ⟨.calling, false⟩)
    (ended : state.callResult turnId = some result) (returned : wait.phase = .returned) :
    state.resumeTurn turnId = state.awaitCall turnId waits result wait := by
  simp [State.resumeTurn, calling, State.proceed, ended, State.awaitCall, returned] <;> rfl

structure SparesSession (before after : State Message) : Prop where
  state : after.session.state = before.session.state
  unknown : ∀ {turnId record}, after.session.turnLedger.get? turnId = some record →
    record.status = .unknown → before.session.turnLedger.get? turnId = some record

section Spares

variable {state : State Message} {turnId : TurnId}

theorem SparesSession.of_session {after : State Message} (same : after.session = state.session) :
    SparesSession state after := by
  refine
    { state := by rw [same]
      unknown := ?_ }
  intro other record found _
  rw [← same]
  exact found

theorem SparesSession.of_set {after : State Message} {settled : TurnRecord Message}
    (sameState : after.session.state = state.session.state)
    (ledger : after.session.turnLedger = state.session.turnLedger.set turnId settled)
    (known : settled.status ≠ .unknown) : SparesSession state after := by
  refine
    { state := sameState
      unknown := ?_ }
  intro other record found unknown
  rw [ledger] at found
  by_cases same : other = turnId
  · subst other
    rw [OrderedDict.get?_set_self] at found
    cases found
    exact absurd unknown known
  · rw [OrderedDict.get?_set_of_ne _ _ same] at found
    exact found

theorem spares_interrupt (running : state.shutdownStarted = false) :
    SparesSession state (state.interrupt turnId) := by
  unfold State.interrupt State.finalizeInterruptedTurn
  split
  · exact .of_session rfl
  · split
    · exact .of_session rfl
    · split
      · exact .of_session rfl
      · rw [if_neg (by rw [running]; decide)]
        exact .of_set rfl rfl (fun unknown => by cases unknown)

theorem spares_commit (response : AdapterResponse Message) :
    SparesSession state (state.conclude turnId (.commit response)) := by
  unfold State.conclude State.settleTurn
  split
  · exact .of_session rfl
  · split
    · exact .of_session rfl
    · split
      · exact .of_session rfl
      · exact .of_set rfl rfl (fun unknown => by cases unknown)

theorem spares_cancelCall : SparesSession state (state.cancelCall turnId) := by
  unfold State.cancelCall
  split <;> exact .of_session rfl

theorem spares_awaitCall {wait : Wait} {result : CallResult Message} (waits : Bool)
    (running : state.shutdownStarted = false) (early : wait.phase ≠ .timedOut)
    (harmless : ∀ error processError, State.outcomeOf result ≠ some (.unknown error processError)) :
    SparesSession state (state.awaitCall turnId waits result wait) := by
  unfold State.awaitCall
  split
  · next expired => exact absurd expired early
  · split
    · exact spares_interrupt running
    · next outcome read =>
        cases outcome with
        | commit response => exact spares_commit response
        | unknown error processError => exact absurd read (harmless error processError)
  · split
    · exact spares_cancelCall
    · exact .of_session rfl

end Spares

open Wait in
/-- The wait of the proxy never counts paused time. The wait of the server does not exactly if no
time passes in a pause that begins while it waits for its deadline, and then a turn whose call
lasted less than the timeout and did not fail is not marked unknown, nor its session desynced. -/
theorem timeouts_exclude_pauses_iff (now timeout : Nat) (paused : Bool) (events : List WaitEvent) :
    (Runs.Admits proxyEventStep Clocked (start now timeout paused) events →
      (Runs.run proxyEventStep (start now timeout paused) events).phase = .timedOut →
      timeout ≤ (Runs.run proxyEventStep (start now timeout paused) events).unpaused) ∧
    (Runs.Admits backendCallStep Clocked (start now timeout paused) events →
      (Runs.run backendCallStep (start now timeout paused) events).phase = .timedOut →
      (timeout ≤ (Runs.run backendCallStep (start now timeout paused) events).unpaused ↔
        Runs.Admits backendCallStep SeesPauses (start now timeout paused) events)) ∧
    (Runs.Admits backendCallStep Clocked (start now timeout paused) events →
      Runs.Admits backendCallStep SeesPauses (start now timeout paused) events →
      (Runs.run backendCallStep (start now timeout paused) events).unpaused < timeout →
      ∀ (state : State Message) (turnId : TurnId) (waits : Bool) (result : CallResult Message),
        state.shutdownStarted = false →
        (∀ error processError, State.outcomeOf result ≠ some (.unknown error processError)) →
        SparesSession state (state.awaitCall turnId waits result
          (Runs.run backendCallStep (start now timeout paused) events))) := by
  have server (clocked : Runs.Admits backendCallStep Clocked (start now timeout paused) events)
      (expired : (Runs.run backendCallStep (start now timeout paused) events).phase = .timedOut) :
      timeout ≤ (Runs.run backendCallStep (start now timeout paused) events).unpaused ↔
        Runs.Admits backendCallStep SeesPauses (start now timeout paused) events := by
    have lasted := timeout_eq false clocked expired
    have overlooked := (overlooked_run false (start now timeout paused) events).2
    change _ = 0 ↔ _ at overlooked
    rw [backendCallStep, ← overlooked]
    omega
  refine ⟨?_, server, ?_⟩
  · intro clocked expired
    have watched : Watched (Runs.run proxyEventStep (start now timeout paused) events) :=
      Runs.run_invariant (fun _ _ watched clocked => watched_step watched clocked)
        ⟨rfl, fun running => by cases running⟩ clocked
    have lasted := timeout_eq true clocked expired
    have seen := watched.seen
    rw [proxyEventStep] at seen ⊢
    omega
  · intro clocked sees early state turnId waits result running harmless
    refine spares_awaitCall waits running ?_ harmless
    intro expired
    have late := (server clocked expired).mpr sees
    omega

def pausedDuring : List WaitEvent :=
  [.wake, .pass 4, .pause, .wake, .wake, .pass 5, .resume, .wake, .wake, .pass 6, .wake]

def pausedForNoTime : List WaitEvent := [.wake, .pass 4, .pause, .resume, .pass 6, .wake]

def resumedDuring : List WaitEvent :=
  [.wake, .pass 50, .resume, .wake, .wake, .pass 1, .finish, .wake]

def callInPause : List (Action String) :=
  [.arriveSubmit
      { turnId := some "turn"
        messages := ["hello"] },
    .passPause 0, .enterSubmit 0 "", .answerHealth 0 true, .setPaused true, .resumeTurn "turn"]

open Wait in
theorem timeouts_exclude_pauses_at_ten :
    10 ≤ (Runs.run proxyEventStep (start 0 10 false) pausedDuring).unpaused ∧
      10 ≤ (Runs.run backendCallStep (start 0 10 false) pausedForNoTime).unpaused ∧
      SparesSession (Runs.run (Blackbox.step plainConfig) State.initial callInPause)
        ((Runs.run (Blackbox.step plainConfig) State.initial callInPause).awaitCall "turn" true
          (.raised .cancelled) (Runs.run backendCallStep (start 0 10 true) resumedDuring)) := by
  have during := @timeouts_exclude_pauses_iff String 0 10 false pausedDuring
  have noTime := @timeouts_exclude_pauses_iff String 0 10 false pausedForNoTime
  have resumed := @timeouts_exclude_pauses_iff String 0 10 true resumedDuring
  exact ⟨during.1 (by decide) (by decide), (noTime.2.1 (by decide) (by decide)).mpr (by decide),
    resumed.2.2 (by decide) (by decide) (by decide) _ _ _ _ (by decide +kernel)
      (fun error processError unknown => by cases unknown)⟩

def callUnderWay : List (Action String) :=
  [.arriveSubmit
      { turnId := some "turn"
        messages := ["hello"] },
    .passPause 0, .enterSubmit 0 "", .answerHealth 0 true, .resumeTurn "turn"]

def pausedTillDeadline : List WaitEvent := [.wake, .pause, .pass 10, .wake]

open Wait in
/-- The wait expires without a tick of unpaused time, and the session is desynced. -/
theorem pause_expires_backend_call :
    Runs.Admits backendCallStep Clocked (start 0 10 false) pausedTillDeadline ∧
      (Runs.run backendCallStep (start 0 10 false) pausedTillDeadline).phase = .timedOut ∧
      (Runs.run backendCallStep (start 0 10 false) pausedTillDeadline).unpaused = 0 ∧
      ((Runs.run (Blackbox.step plainConfig) State.initial callUnderWay).awaitCall "turn" false
        (.raised .cancelled) (Runs.run backendCallStep (start 0 10 false) pausedTillDeadline)).session.state =
        .desynced := by
  refine ⟨by decide, by decide, by decide, ?_⟩
  decide +kernel

end Dressage.Blackbox

/-
What a graceful shutdown leaves behind.

Shutdown marks the server and then waits, with no lock held. What was under way
does not look at the mark again: a register past its check ends by setting the
state, a failed health check marks the backend, and a submission past its check
is admitted.
-/

import Dressage.Blackbox.BindingConsistency

namespace Dressage.Blackbox.Registration

open Lib

variable {Options Fingerprint : Type} {config : RegisterConfig Options Fingerprint}

def AdaptersClosed (server : Server Options Fingerprint) : Prop :=
  ∀ adapter life, server.adapters.get? adapter = some life → life.initialized = true →
    0 < life.shutdownCalls

structure StaysShut (before after : Server Options Fingerprint) : Prop where
  status : after.status = .shuttingDown
  registered : ∀ id existing, (id, .registered existing) ∈ after.replies →
    (id, .registered existing) ∈ before.replies
  admitted : after.admitted = before.admitted
  closed : after.shutdown = .returned → AdaptersClosed after

def HasRoom (config : RegisterConfig Options Fingerprint) (server : Server Options Fingerprint)
    (request : RegisterRequest Options) : Prop :=
  (server.sessions.get? request.boundSessionId).isSome = true ∨
    (SessionStore.makeRoom server.sessions (config.maxSessions request)).entries.length <
      config.maxSessions request

/-- Once shutdown has begun no health check fails, no submission is let through and no
`initialize` ends; and whenever one succeeds there is room for the session. -/
def SafeShutdown (config : RegisterConfig Options Fingerprint)
    (server : Server Options Fingerprint) : Action Options → Prop
  | .monitorFails => server.monitorRuns = true → server.shutdown = .none
  | .turnUnhealthy => server.shutdown = .none
  | .endSubmission id verdict =>
    id ∈ server.submissions → verdict ≠ .refused → server.shutdown = .none
  | .finishRegister id result =>
    ∀ request adapter, server.registers.get? id = some ⟨request, adapter, .initializing⟩ →
      server.shutdown = .none ∧ (result = .succeeded → HasRoom config server request)
  | _ => True

structure AdaptersKept (server : Server Options Fingerprint) : Prop where
  held : LockHeld server
  current : ∀ adapter life, server.adapters.get? adapter = some life →
    life.initialized = true → life.shutdownCalls = 0 → server.adapter = some adapter
  tornDown : ∀ id task resetSessions, server.registers.get? id = some task →
    task.phase = .stoppingAdapter resetSessions → AdaptersClosed server
  initializing : ∀ id task, server.registers.get? id = some task →
    task.phase = .initializing → AdaptersClosed server ∧ server.adapter = some task.adapter
  shut : server.shutdown = .stoppingAdapter ∨ server.shutdown = .returned → AdaptersClosed server

namespace AdaptersKept

variable {before after server : Server Options Fingerprint}

theorem initial : AdaptersKept (Server.initial : Server Options Fingerprint) := by
  refine
    { held := LockHeld.initial
      current := ?_
      tornDown := ?_
      initializing := ?_
      shut := ?_ }
  · intro adapter life found
    cases found
  · intro id task resetSessions present
    cases present
  · intro id task present
    cases present
  · intro _ adapter life found
    cases found

theorem keep (kept : AdaptersKept before) (lock : after.initLock = before.initLock)
    (adapter : after.adapter = before.adapter)
    (adapters : ∀ adapter life, after.adapters.get? adapter = some life →
      life.initialized = true → before.adapters.get? adapter = some life)
    (registers : ∀ id task, after.registers.get? id = some task → task.phase.binds = true →
      before.registers.get? id = some task)
    (shut : after.shutdown = .stoppingAdapter ∨ after.shutdown = .returned →
      AdaptersClosed before) : AdaptersKept after := by
  have closes (closed : AdaptersClosed before) : AdaptersClosed after :=
    fun adapter life found initialized =>
      closed adapter life (adapters adapter life found initialized) initialized
  refine
    { held := kept.held.keep lock registers
      current := ?_
      tornDown := ?_
      initializing := ?_
      shut := fun late => closes (shut late) }
  · intro other life found initialized never
    rw [adapter]
    exact kept.current other life (adapters other life found initialized) initialized never
  · intro id task resetSessions present phase
    have binds : task.phase.binds = true := by rw [phase]; rfl
    exact closes (kept.tornDown id task resetSessions (registers id task present binds) phase)
  · intro id task present phase
    have binds : task.phase.binds = true := by rw [phase]; rfl
    have earlier := kept.initializing id task (registers id task present binds) phase
    exact ⟨closes earlier.1, adapter.trans earlier.2⟩

theorem elsewhere (kept : AdaptersKept before) (lock : after.initLock = before.initLock)
    (adapter : after.adapter = before.adapter) (adapters : after.adapters = before.adapters)
    (registers : after.registers = before.registers)
    (shutdown : after.shutdown = before.shutdown) : AdaptersKept after := by
  refine kept.keep lock adapter ?_ ?_ ?_
  · intro other life found _
    rw [adapters] at found
    exact found
  · intro id task present _
    rw [registers] at present
    exact present
  · rw [shutdown]
    exact kept.shut

theorem answer (kept : AdaptersKept server) (id : RequestId) (reply : RegisterReply) :
    AdaptersKept (server.answer id reply) :=
  kept.keep rfl rfl (fun _ _ found _ => found) (fun _ _ present _ => register_pop present) kept.shut

theorem closed_of_none (kept : AdaptersKept server) (none : server.adapter = none) :
    AdaptersClosed server := by
  intro adapter life found initialized
  apply Nat.pos_of_ne_zero
  intro never
  cases none.symm.trans (kept.current adapter life found initialized never)

theorem closed_callShutdown (kept : AdaptersKept server) {adapter : AdapterId}
    (current : server.adapter = some adapter) : AdaptersClosed (server.callShutdown adapter) := by
  intro other life found initialized
  rw [Server.callShutdown, OrderedDict.get?_mapValues] at found
  obtain ⟨earlier, there, changed⟩ := Option.map_eq_some_iff.mp found
  subst changed
  split
  · exact Nat.succ_pos _
  · next different =>
      rw [if_neg different] at initialized
      apply Nat.pos_of_ne_zero
      intro never
      have own := kept.current other earlier there initialized never
      rw [current] at own
      exact different (Option.some.inj own).symm

theorem of_closed (held : LockHeld server) (closed : AdaptersClosed server)
    (initializing : ∀ id task, server.registers.get? id = some task →
      task.phase = .initializing → server.adapter = some task.adapter) : AdaptersKept server := by
  refine
    { held := held
      current := ?_
      tornDown := fun _ _ _ _ _ => closed
      initializing := fun id task present phase => ⟨closed, initializing id task present phase⟩
      shut := fun _ => closed }
  intro adapter life found initialized never
  have positive := closed adapter life found initialized
  omega

theorem arriveRegister (kept : AdaptersKept server) (request : RegisterRequest Options) :
    AdaptersKept (server.arriveRegister request) := by
  unfold Server.arriveRegister
  dsimp only
  split
  · exact kept.keep rfl rfl (fun _ _ found _ => found)
      (fun _ _ present _ => register_pop present) kept.shut
  · refine kept.keep rfl rfl ?_ (fun _ _ present binds => register_set rfl present binds)
      kept.shut
    intro adapter life found initialized
    rw [OrderedDict.get?_set] at found
    split at found
    · cases found
      cases initialized
    · exact found

theorem prepareRegister (kept : AdaptersKept server) (id : RequestId)
    (valid : Except ApiError Unit) : AdaptersKept (server.prepareRegister id valid) := by
  unfold Server.prepareRegister
  split
  · split
    · exact kept.answer id _
    · exact kept.keep rfl rfl (fun _ _ found _ => found)
        (fun _ _ present binds => register_set rfl present binds) kept.shut
  · exact kept

variable {resetSessions : Bool} {id : RequestId}

section

variable (kept : AdaptersKept server)
include kept

theorem startInitialize {task : RegisterTask Options} (closed : AdaptersClosed server)
    (present : server.registers.get? id = some task) (binds : task.phase.binds = true) :
    AdaptersKept (server.startInitialize id task resetSessions) := by
  refine .of_closed (kept.held.set present binds rfl rfl) closed ?_
  intro other found there phase
  have holds : found.phase.binds = true := by rw [phase]; rfl
  rw [(kept.held.only present binds there holds).2]
  rfl

theorem teardownAdapter {task : RegisterTask Options}
    (present : server.registers.get? id = some task) (binds : task.phase.binds = true) :
    AdaptersKept (server.teardownAdapter id task resetSessions) := by
  unfold Server.teardownAdapter
  split
  · next absent => exact kept.startInitialize (kept.closed_of_none absent) present binds
  · next adapter current =>
      have called : LockHeld (server.callShutdown adapter) := kept.held
      refine .of_closed (called.set present binds rfl rfl) (kept.closed_callShutdown current) ?_
      intro other found there phase
      have holds : found.phase.binds = true := by rw [phase]; rfl
      rw [(called.only present binds there holds).2] at phase
      cases phase

theorem entered_kept {request : RegisterRequest Options} {adapter : AdapterId}
    (free : server.initLock = none) :
    AdaptersKept (Bound.entered config server id request adapter resetSessions) := by
  have none {other : RequestId} {found : RegisterTask Options}
      (there : (Bound.entered config server id request adapter resetSessions).registers.get?
        other = some found) (holds : found.phase.binds = true) :
      found.phase = .stoppingMonitor resetSessions := by
    rw [(kept.held.onlyEntered free there holds).2]
  refine
    { kept with
      held := kept.held.enter free rfl rfl
      tornDown := ?_
      initializing := ?_ }
  · intro other found _ there phase
    have own := none there (by rw [phase]; rfl)
    cases phase.symm.trans own
  · intro other found there phase
    have own := none there (by rw [phase]; rfl)
    cases phase.symm.trans own

theorem enterRegister [DecidableEq Fingerprint] (id : RequestId) :
    AdaptersKept (server.enterRegister config id) := by
  unfold Server.enterRegister
  split
  · next request adapter present =>
      split
      · exact kept
      · next unlocked =>
          have free : server.initLock = none := by simpa using unlocked
          split
          · exact kept.answer id _
          · exact kept.answer id _
          · next resetSessions ahead =>
              rw [Bound.teardown_eq]
              have inside : AdaptersKept
                  (Bound.entered config server id request adapter resetSessions) :=
                kept.entered_kept free
              split
              · exact inside.elsewhere rfl rfl rfl rfl rfl
              · refine inside.teardownAdapter ?_ rfl
                exact OrderedDict.get?_set_self _ _ _
  · exact kept

theorem monitorStopped (id : RequestId) : AdaptersKept (server.monitorStopped id) := by
  unfold Server.monitorStopped
  split
  · next request adapter resetSessions present =>
      have unmonitored : AdaptersKept { server with monitored := false } :=
        kept.elsewhere rfl rfl rfl rfl rfl
      exact unmonitored.teardownAdapter present rfl
  · exact kept

theorem adapterStopped (id : RequestId) : AdaptersKept (server.adapterStopped id) := by
  unfold Server.adapterStopped
  split
  · next request adapter resetSessions present =>
      exact kept.startInitialize (kept.tornDown id _ resetSessions present rfl) present rfl
  · exact kept

end

theorem left (kept : AdaptersKept before) (held : before.initLock = some id)
    (registers : after.registers = before.registers.pop id)
    (current : ∀ adapter life, after.adapters.get? adapter = some life →
      life.initialized = true → life.shutdownCalls = 0 → after.adapter = some adapter)
    (early : after.shutdown = .none) : AdaptersKept after := by
  refine
    { held := kept.held.leave held registers
      current := current
      tornDown := ?_
      initializing := ?_
      shut := ?_ }
  · intro other found resetSessions there phase
    rw [registers] at there
    have released := kept.held.released held there
    rw [phase] at released
    cases released
  · intro other found there phase
    rw [registers] at there
    have released := kept.held.released held there
    rw [phase] at released
    cases released
  · rintro (stopping | returned)
    · cases early.symm.trans stopping
    · cases early.symm.trans returned

theorem getOrCreate_of_room {request : RegisterRequest Options}
    (room : HasRoom config server request) (session : StoredSession Fingerprint) :
    (SessionStore.getOrCreate server.sessions request.boundSessionId session
      (config.maxSessions request)).1 = true := by
  unfold SessionStore.getOrCreate
  split
  · rfl
  · next absent =>
      rcases room with stored | free
      · rw [absent] at stored
        cases stored
      · rw [if_neg (Nat.not_le.mpr free)]

section

variable (kept : AdaptersKept server)
include kept

theorem finishRegister {result : Initialization}
    (safe : SafeShutdown config server (.finishRegister id result)) :
    AdaptersKept (server.finishRegister config id result) := by
  unfold Server.finishRegister
  split
  · next request adapter present =>
      have held := kept.held id _ present rfl
      obtain ⟨closed, own⟩ := kept.initializing id _ present rfl
      obtain ⟨early, room⟩ := safe request adapter present
      have without (other : AdapterId) (life : AdapterLife)
          (found : server.adapters.get? other = some life) (initialized : life.initialized = true)
          (never : life.shutdownCalls = 0) : none = some other := by
        have positive := closed other life found initialized
        omega
      cases result with
      | apiError error | failed message | protocolError message =>
        exact kept.left held rfl without early
      | succeeded =>
        have creates := getOrCreate_of_room (room rfl) (newSession config request server.now)
        dsimp only
        generalize SessionStore.getOrCreate server.sessions request.boundSessionId
          (newSession config request server.now) (config.maxSessions request) = creation
          at creates ⊢
        rcases creation with ⟨created, sessions⟩
        cases creates
        refine kept.left held rfl ?_ early
        intro other life found initialized never
        rw [Server.answerLocked, Server.answer, Server.markInitialized,
          OrderedDict.get?_mapValues] at found
        obtain ⟨earlier, there, changed⟩ := Option.map_eq_some_iff.mp found
        subst changed
        by_cases same : other = adapter
        · rw [same]
          exact own
        · rw [if_neg same] at initialized never
          cases without other earlier there initialized never
  · exact kept

theorem markBackendError : AdaptersKept server.markBackendError := by
  unfold Server.markBackendError
  split
  · exact kept
  · exact kept.elsewhere rfl rfl rfl rfl rfl

theorem shutdownAdapter : AdaptersKept server.shutdownAdapter := by
  unfold Server.shutdownAdapter
  split
  · next absent =>
      exact .of_closed kept.held (kept.closed_of_none absent)
        (fun id task present phase => (kept.initializing id task present phase).2)
  · next adapter current =>
      exact .of_closed kept.held (kept.closed_callShutdown current)
        (fun id task present phase => (kept.initializing id task present phase).2)

theorem after_step [DecidableEq Fingerprint] {action : Action Options}
    (safe : SafeShutdown config server action) :
    AdaptersKept (step config server action) := by
  cases action with
  | arriveRegister request => exact kept.arriveRegister request
  | prepareRegister id valid => exact kept.prepareRegister id valid
  | enterRegister id => exact kept.enterRegister id
  | monitorStopped id => exact kept.monitorStopped id
  | adapterStopped id => exact kept.adapterStopped id
  | finishRegister id result => exact kept.finishRegister safe
  | monitorFails =>
    change AdaptersKept server.monitorFails
    unfold Server.monitorFails
    split
    · exact kept.markBackendError.elsewhere rfl rfl rfl rfl rfl
    · exact kept
  | turnUnhealthy => exact kept.markBackendError
  | endSubmission id verdict =>
    change AdaptersKept (server.endSubmission id verdict)
    unfold Server.endSubmission
    split
    · have ended : AdaptersKept
          { server with submissions := server.submissions.erase id } :=
        kept.elsewhere rfl rfl rfl rfl rfl
      cases verdict with
      | refused => exact ended
      | unhealthy => exact ended.markBackendError
      | admitted => exact kept.elsewhere rfl rfl rfl rfl rfl
    · exact kept
  | arriveSubmission =>
    change AdaptersKept server.arriveSubmission
    unfold Server.arriveSubmission
    split <;> exact kept.elsewhere rfl rfl rfl rfl rfl
  | beginShutdown =>
    change AdaptersKept server.beginShutdown
    unfold Server.beginShutdown
    split
    · refine kept.keep rfl rfl (fun _ _ found _ => found) (fun _ _ present _ => present) ?_
      rintro (stopping | returned)
      · cases stopping
      · cases returned
    · exact kept
  | shutdownDrained =>
    change AdaptersKept server.shutdownDrained
    unfold Server.shutdownDrained
    split
    · split
      · refine kept.keep rfl rfl (fun _ _ found _ => found) (fun _ _ present _ => present) ?_
        rintro (stopping | returned)
        · cases stopping
        · cases returned
      · exact kept.shutdownAdapter
    · exact kept
  | shutdownMonitorStopped =>
    change AdaptersKept server.shutdownMonitorStopped
    unfold Server.shutdownMonitorStopped
    split
    · have unmonitored : AdaptersKept { server with monitored := false } :=
        kept.elsewhere rfl rfl rfl rfl rfl
      exact unmonitored.shutdownAdapter
    · exact kept
  | shutdownAdapterStopped =>
    change AdaptersKept server.shutdownAdapterStopped
    unfold Server.shutdownAdapterStopped
    split
    · next stopping =>
        exact kept.keep rfl rfl (fun _ _ found _ => found) (fun _ _ present _ => present)
          (fun _ => kept.shut (.inl stopping))
    · exact kept
  | tick now | touchSession sessionId | abortSession sessionId | unknownTurn sessionId =>
    exact kept.elsewhere rfl rfl rfl rfl rfl

end

end AdaptersKept

structure ShuttingDown (server : Server Options Fingerprint) : Prop where
  begun : server.shutdown ≠ .none
  status : server.status = .shuttingDown

structure ShutStep (before after : Server Options Fingerprint) : Prop where
  shut : ShuttingDown after
  registered : ∀ id existing, (id, .registered existing) ∈ after.replies →
    (id, .registered existing) ∈ before.replies
  admitted : after.admitted = before.admitted

namespace ShutStep

variable {before after server : Server Options Fingerprint}

theorem same (shut : ShuttingDown before) (status : after.status = before.status)
    (shutdown : after.shutdown = before.shutdown) (replies : after.replies = before.replies)
    (admitted : after.admitted = before.admitted) : ShutStep before after :=
  { shut :=
      { begun := by
          rw [shutdown]
          exact shut.begun
        status := status.trans shut.status }
    registered := by
      intro id existing member
      rw [replies] at member
      exact member
    admitted := admitted }

theorem refl (shut : ShuttingDown server) : ShutStep server server := same shut rfl rfl rfl rfl

variable {id : RequestId}

theorem refused (shut : ShuttingDown before) {error : ApiError}
    (status : after.status = before.status) (shutdown : after.shutdown = before.shutdown)
    (replies : after.replies = before.replies ++ [(id, .refused error)])
    (admitted : after.admitted = before.admitted) : ShutStep before after :=
  { shut :=
      { begun := by
          rw [shutdown]
          exact shut.begun
        status := status.trans shut.status }
    registered := by
      intro other existing member
      rw [replies] at member
      rcases List.mem_append.mp member with earlier | new
      · exact earlier
      · cases List.mem_singleton.mp new
    admitted := admitted }

theorem arriveRegister (shut : ShuttingDown server) (request : RegisterRequest Options) :
    ShutStep server (server.arriveRegister request) := by
  unfold Server.arriveRegister
  dsimp only
  rw [if_pos shut.status]
  exact refused shut rfl rfl rfl rfl

theorem prepareRegister (shut : ShuttingDown server) (id : RequestId)
    (valid : Except ApiError Unit) : ShutStep server (server.prepareRegister id valid) := by
  unfold Server.prepareRegister
  split
  · split
    · exact refused shut rfl rfl rfl rfl
    · exact same shut rfl rfl rfl rfl
  · exact refl shut

theorem enterRegister [DecidableEq Fingerprint] (shut : ShuttingDown server) (id : RequestId) :
    ShutStep server (server.enterRegister config id) := by
  unfold Server.enterRegister
  split
  · next request adapter present =>
      split
      · exact refl shut
      · have turnedAway : Server.entryOf config server request = .refused shuttingDownError := by
          simp [Server.entryOf, shut.status]
        rw [turnedAway]
        exact refused shut rfl rfl rfl rfl
  · exact refl shut

theorem teardownAdapter (shut : ShuttingDown before) (id : RequestId)
    (task : RegisterTask Options) (resetSessions : Bool) :
    ShutStep before (before.teardownAdapter id task resetSessions) := by
  unfold Server.teardownAdapter
  split <;> exact same shut rfl rfl rfl rfl

section

variable (shut : ShuttingDown server)
include shut

theorem monitorStopped (id : RequestId) : ShutStep server (server.monitorStopped id) := by
  unfold Server.monitorStopped
  split
  · have unmonitored : ShuttingDown { server with monitored := false } :=
      { begun := shut.begun
        status := shut.status }
    exact { teardownAdapter unmonitored id _ _ with }
  · exact refl shut

theorem adapterStopped (id : RequestId) : ShutStep server (server.adapterStopped id) := by
  unfold Server.adapterStopped
  split
  · exact same shut rfl rfl rfl rfl
  · exact refl shut

theorem finishRegister {result : Initialization}
    (safe : SafeShutdown config server (.finishRegister id result)) :
    ShutStep server (server.finishRegister config id result) := by
  unfold Server.finishRegister
  split
  · next request adapter present => exact absurd (safe request adapter present).1 shut.begun
  · exact refl shut

theorem endSubmission {verdict : Server.SubmissionVerdict}
    (safe : SafeShutdown config server (.endSubmission id verdict)) :
    ShutStep server (server.endSubmission id verdict) := by
  unfold Server.endSubmission
  split
  · next member =>
      cases verdict with
      | refused => exact same shut rfl rfl rfl rfl
      | unhealthy | admitted => exact absurd (safe member (fun same => by cases same)) shut.begun
  · exact refl shut

end

theorem proceeds (shut : ShuttingDown before) (status : after.status = before.status)
    (begun : after.shutdown ≠ .none) (replies : after.replies = before.replies)
    (admitted : after.admitted = before.admitted) : ShutStep before after :=
  { shut :=
      { begun := begun
        status := status.trans shut.status }
    registered := by
      intro id existing member
      rw [replies] at member
      exact member
    admitted := admitted }

theorem shutdownAdapter (shut : ShuttingDown before) : ShutStep before before.shutdownAdapter := by
  unfold Server.shutdownAdapter
  split <;> exact proceeds shut rfl (fun same => by cases same) rfl rfl

theorem of_step [DecidableEq Fingerprint] {action : Action Options} (shut : ShuttingDown server)
    (safe : SafeShutdown config server action) : ShutStep server (step config server action) := by
  cases action with
  | arriveRegister request => exact arriveRegister shut request
  | prepareRegister id valid => exact prepareRegister shut id valid
  | enterRegister id => exact enterRegister shut id
  | monitorStopped id => exact monitorStopped shut id
  | adapterStopped id => exact adapterStopped shut id
  | finishRegister id result => exact finishRegister shut safe
  | monitorFails =>
    change ShutStep server server.monitorFails
    unfold Server.monitorFails
    split
    · next runs => exact absurd (safe runs) shut.begun
    · exact refl shut
  | turnUnhealthy => exact absurd safe shut.begun
  | arriveSubmission =>
    change ShutStep server server.arriveSubmission
    unfold Server.arriveSubmission
    split <;> exact same shut rfl rfl rfl rfl
  | endSubmission id verdict => exact endSubmission shut safe
  | beginShutdown =>
    change ShutStep server server.beginShutdown
    unfold Server.beginShutdown
    rw [if_neg shut.begun]
    exact refl shut
  | shutdownDrained =>
    change ShutStep server server.shutdownDrained
    unfold Server.shutdownDrained
    split
    · split
      · exact proceeds shut rfl (fun same => by cases same) rfl rfl
      · exact shutdownAdapter shut
    · exact refl shut
  | shutdownMonitorStopped =>
    change ShutStep server server.shutdownMonitorStopped
    unfold Server.shutdownMonitorStopped
    split
    · have unmonitored : ShuttingDown { server with monitored := false } :=
        { begun := shut.begun
          status := shut.status }
      exact { shutdownAdapter unmonitored with }
    · exact refl shut
  | shutdownAdapterStopped =>
    change ShutStep server server.shutdownAdapterStopped
    unfold Server.shutdownAdapterStopped
    split
    · exact proceeds shut rfl (fun same => by cases same) rfl rfl
    · exact refl shut
  | tick now | touchSession sessionId | abortSession sessionId | unknownTurn sessionId =>
    exact same shut rfl rfl rfl rfl

end ShutStep

theorem shuttingDown_run [DecidableEq Fingerprint] {server : Server Options Fingerprint}
    {actions : List (Action Options)} (shut : ShuttingDown server)
    (safe : Runs.Admits (step config) (SafeShutdown config) server actions) :
    ShutStep server (Runs.run (step config) server actions) := by
  induction actions generalizing server with
  | nil => exact .refl shut
  | cons action rest ih =>
    have first : ShutStep server (step config server action) := .of_step shut safe.1
    have later := ih first.shut safe.2
    exact
      { shut := later.shut
        registered := fun id existing member =>
          first.registered id existing (later.registered id existing member)
        admitted := later.admitted.trans first.admitted }

/-- In every run in which, once shutdown has begun, no health check fails, no submission is let
through and no adapter's `initialize` ends, shutdown is final. -/
theorem shutdown_final_of_safe [DecidableEq Fingerprint]
    (config : RegisterConfig Options Fingerprint) {actions : List (Action Options)}
    (safe : Runs.Admits (step config) (SafeShutdown config) Server.initial actions)
    {past later : List (Action Options)} (early : past ++ .beginShutdown :: later <+: actions)
    (running : (Runs.run (step config) Server.initial past).shutdown = .none) :
    StaysShut (Runs.run (step config) Server.initial (past ++ [.beginShutdown]))
      (Runs.run (step config) Server.initial (past ++ .beginShutdown :: later)) := by
  have preserved (server : Server Options Fingerprint) (action : Action Options)
    (kept : AdaptersKept server) (safe : SafeShutdown config server action) :
    AdaptersKept (step config server action) := kept.after_step safe
  have kept := Runs.prefix_invariant preserved AdaptersKept.initial safe early
  obtain ⟨rest, split⟩ := early
  rw [← split, Runs.admits_append, Runs.admits_append] at safe
  have begun : ShuttingDown (step config (Runs.run (step config) Server.initial past)
      .beginShutdown) := by
    simp only [step, Server.beginShutdown, if_pos running]
    exact
      { begun := fun same => by cases same
        status := rfl }
  have shut := shuttingDown_run begun safe.1.2.2
  rw [Runs.run_append, Runs.run_cons] at kept
  rw [Runs.run_snoc, Runs.run_append, Runs.run_cons]
  exact
    { shut with
      status := shut.shut.status
      closed := fun returned => kept.shut (.inr returned) }

/-- A submission waits for its session, and a register takes down the first adapter. -/
def requestsUnderWay : List (Action Unit) :=
  registeredOnce ++
    [.arriveSubmission, .abortSession "session", .arriveRegister (plainRequest "b"),
      .prepareRegister 2 (.ok ()), .enterRegister 2]

def shutdownUndisturbed : List (Action Unit) :=
  requestsUnderWay ++
    .beginShutdown :: [.monitorStopped 2, .adapterStopped 2, .endSubmission 1 .refused,
      .shutdownDrained, .shutdownAdapterStopped]

theorem shutdown_final_undisturbed :
    (Runs.run (step plainConfig) Server.initial shutdownUndisturbed).shutdown = .returned ∧
      StaysShut (Runs.run (step plainConfig) Server.initial (requestsUnderWay ++ [.beginShutdown]))
        (Runs.run (step plainConfig) Server.initial shutdownUndisturbed) := by
  have safe : Runs.Admits (step plainConfig) (SafeShutdown plainConfig) Server.initial
      shutdownUndisturbed := by
    refine ⟨trivial, trivial, trivial, ?_, trivial, trivial, trivial, trivial, trivial, trivial,
      trivial, trivial, ?_, trivial, trivial, trivial⟩
    · intro request adapter present
      refine ⟨rfl, fun _ => .inr ?_⟩
      exact Nat.zero_lt_one
    · intro waiting refused
      exact absurd rfl refused
  exact ⟨by decide +kernel,
    shutdown_final_of_safe plainConfig safe (List.prefix_refl _) (by decide +kernel)⟩

def monitorFailsInShutdown : List (Action Unit) :=
  registeredOnce ++ [.beginShutdown, .monitorFails]

def registerInShutdown : List (Action Unit) :=
  registeredOnce ++
    [.arriveRegister (plainRequest "b"), .prepareRegister 1 (.ok ()), .abortSession "session",
      .enterRegister 1, .beginShutdown, .monitorStopped 1, .shutdownDrained,
      .shutdownAdapterStopped, .adapterStopped 1, .finishRegister 1 .succeeded]

def submissionInShutdown : List (Action Unit) :=
  registeredOnce ++ [.arriveSubmission, .beginShutdown, .endSubmission 1 .admitted]

theorem shutdown_not_final :
    (Runs.run (step plainConfig) Server.initial monitorFailsInShutdown).status = .error ∧
      (Runs.run (step plainConfig) Server.initial registerInShutdown).status = .ready ∧
      (Runs.run (step plainConfig) Server.initial registerInShutdown).shutdown = .returned ∧
      (1, .registered false) ∈
        (Runs.run (step plainConfig) Server.initial registerInShutdown).replies ∧
      ¬ AdaptersClosed (Runs.run (step plainConfig) Server.initial registerInShutdown) ∧
      (Runs.run (step plainConfig) Server.initial submissionInShutdown).admitted = [1] := by
  refine ⟨by decide +kernel, by decide +kernel, by decide +kernel, by decide +kernel, ?_,
    by decide +kernel⟩
  intro closed
  have left : (Runs.run (step plainConfig) Server.initial registerInShutdown).adapters.get? 1 =
      some ⟨true, 0⟩ := by
    decide +kernel
  exact absurd (closed 1 ⟨true, 0⟩ left rfl) (Nat.lt_irrefl 0)

end Dressage.Blackbox.Registration

/-
Bindings and sessions across registrations.

A register that goes ahead clears the store when it replaces another binding and
keeps it when it renews its own. It tells the two apart by the binding, which a
failed registration has already cleared; the sessions then belong to whatever
was bound before.
-/

import Dressage.Lib.Runs
import Dressage.Blackbox.Registration

namespace Dressage.Blackbox.Registration

open Lib OrderedDict

variable {Options Fingerprint : Type} {config : RegisterConfig Options Fingerprint}

structure CreatedFor (config : RegisterConfig Options Fingerprint)
    (request : RegisterRequest Options) (session : StoredSession Fingerprint) : Prop where
  createdBy : session.createdBy = config.digest request
  blackboxType : session.blackboxType = request.blackboxType
  routerBaseUrl : session.routerBaseUrl = request.routerBaseUrl
  systemPrompt : session.systemPrompt = injectedPrompt config request session.createdAt

def ReadyFits (config : RegisterConfig Options Fingerprint)
    (server : Server Options Fingerprint) : Prop :=
  server.status = .ready →
    ∃ binding session, server.binding = some binding ∧
      server.fingerprint = some (config.digest binding) ∧
      server.sessions.get? binding.boundSessionId = some session ∧
      CreatedFor config binding session

def AllAborted (store : SessionStore Fingerprint) : Prop :=
  ∀ sessionId session, store.get? sessionId = some session → session.state = .aborted

def RebindsClosed [DecidableEq Fingerprint] (config : RegisterConfig Options Fingerprint)
    (server : Server Options Fingerprint) : Action Options → Prop
  | .enterRegister id =>
    ∀ request adapter, server.registers.get? id = some ⟨request, adapter, .locking⟩ →
      server.initLock = none → server.lastFingerprint ≠ some (config.digest request) →
      (∃ error, Server.entryOf config server request = .refused error) ∨ AllAborted server.sessions
  | _ => True

/-- A register that finds no binding finds no open session unless it repeats the last one, and
no session of another registration under its own session id. -/
def SafeRebinding (config : RegisterConfig Options Fingerprint)
    (server : Server Options Fingerprint) : Action Options → Prop
  | .enterRegister id =>
    ∀ request adapter, server.registers.get? id = some ⟨request, adapter, .locking⟩ →
      server.initLock = none → server.binding = none →
      (server.lastFingerprint ≠ some (config.digest request) → AllAborted server.sessions) ∧
        ∀ session, server.sessions.get? request.boundSessionId = some session →
          session.createdBy = config.digest request
  | _ => True

structure SameOrigin (before after : StoredSession Fingerprint) : Prop where
  blackboxType : after.blackboxType = before.blackboxType
  routerBaseUrl : after.routerBaseUrl = before.routerBaseUrl
  systemPrompt : after.systemPrompt = before.systemPrompt
  createdAt : after.createdAt = before.createdAt
  createdBy : after.createdBy = before.createdBy

theorem SameOrigin.refl (session : StoredSession Fingerprint) : SameOrigin session session :=
  { blackboxType := rfl
    routerBaseUrl := rfl
    systemPrompt := rfl
    createdAt := rfl
    createdBy := rfl }

theorem CreatedFor.later {request : RegisterRequest Options}
    {before after : StoredSession Fingerprint} (created : CreatedFor config request before)
    (same : SameOrigin before after) : CreatedFor config request after :=
  { createdBy := same.createdBy.trans created.createdBy
    blackboxType := same.blackboxType.trans created.blackboxType
    routerBaseUrl := same.routerBaseUrl.trans created.routerBaseUrl
    systemPrompt := by rw [same.systemPrompt, same.createdAt, created.systemPrompt] }

def KeepsOrigins (before after : SessionStore Fingerprint) : Prop :=
  ∀ sessionId, ∃ change : StoredSession Fingerprint → StoredSession Fingerprint,
    (∀ session, SameOrigin session (change session)) ∧
      after.get? sessionId = (before.get? sessionId).map change

theorem KeepsOrigins.refl (store : SessionStore Fingerprint) : KeepsOrigins store store := by
  intro sessionId
  refine ⟨id, SameOrigin.refl, ?_⟩
  rw [Option.map_id, id_eq]

theorem KeepsOrigins.mapValues {change : SessionId → StoredSession Fingerprint →
    StoredSession Fingerprint} (same : ∀ id session, SameOrigin session (change id session))
    (store : SessionStore Fingerprint) :
    KeepsOrigins store (OrderedDict.mapValues change store) := by
  intro sessionId
  exact ⟨change sessionId, same sessionId, get?_mapValues change store sessionId⟩

variable {sessionId : SessionId} {session : StoredSession Fingerprint}
variable {store : SessionStore Fingerprint}

variable {before after : SessionStore Fingerprint}

theorem KeepsOrigins.found (keeps : KeepsOrigins before after)
    (found : before.get? sessionId = some session) :
    ∃ later, after.get? sessionId = some later ∧ SameOrigin session later := by
  obtain ⟨change, same, stored⟩ := keeps sessionId
  rw [found] at stored
  exact ⟨change session, stored, same session⟩

theorem KeepsOrigins.earlier (keeps : KeepsOrigins before after) {later : StoredSession Fingerprint}
    (found : after.get? sessionId = some later) :
    ∃ session, before.get? sessionId = some session ∧ SameOrigin session later := by
  obtain ⟨change, same, stored⟩ := keeps sessionId
  rw [found] at stored
  obtain ⟨session, present, changed⟩ := Option.map_eq_some_iff.mp stored.symm
  exact ⟨session, present, changed ▸ same session⟩

theorem sameOrigin_desynced (now : Nat) (session : StoredSession Fingerprint) :
    SameOrigin session (SessionStore.desynced now session) := by
  unfold SessionStore.desynced
  split
  · exact .refl session
  · exact { SameOrigin.refl session with }

theorem keepsOrigins_changeSession (server : Server Options Fingerprint) (sessionId : SessionId)
    {change : StoredSession Fingerprint → StoredSession Fingerprint}
    (same : ∀ session, SameOrigin session (change session)) :
    KeepsOrigins server.sessions (server.changeSession sessionId change).sessions := by
  refine KeepsOrigins.mapValues (fun id session => ?_) server.sessions
  split
  · exact same session
  · exact .refl session

theorem keepsOrigins_markBackendError (server : Server Options Fingerprint) :
    KeepsOrigins server.sessions server.markBackendError.sessions := by
  unfold Server.markBackendError
  split
  · exact .refl _
  · exact KeepsOrigins.mapValues (fun _ session => sameOrigin_desynced server.now session) _

def RegisterPhase.resets : RegisterPhase → Bool
  | .stoppingMonitor resetSessions => resetSessions
  | .stoppingAdapter resetSessions => resetSessions
  | _ => false

def StoredFits (config : RegisterConfig Options Fingerprint) (store : SessionStore Fingerprint)
    (request : RegisterRequest Options) : Prop :=
  ∀ session, store.get? request.boundSessionId = some session →
    session.createdBy = config.digest request

structure Bound (config : RegisterConfig Options Fingerprint)
    (server : Server Options Fingerprint) : Prop where
  held : LockHeld server
  ready : server.status = .ready → server.initLock = none ∧ server.binding.isSome = true
  last : ∀ fingerprint, server.fingerprint = some fingerprint →
    server.lastFingerprint = some fingerprint
  settled : server.initLock = none → ∀ binding, server.binding = some binding →
    server.fingerprint = some (config.digest binding) ∧
      (server.sessions.get? binding.boundSessionId).isSome = true ∧
      StoredFits config server.sessions binding
  pending : ∀ id task, server.registers.get? id = some task → task.phase.binds = true →
    server.fingerprint = some (config.digest task.request) ∧
      (task.phase.resets = false → StoredFits config server.sessions task.request)
  origin : ∀ sessionId session, server.sessions.get? sessionId = some session →
    ∃ request, CreatedFor config request session

theorem StoredFits.later {request : RegisterRequest Options}
    (fits : StoredFits config before request) (keeps : KeepsOrigins before after) :
    StoredFits config after request := by
  intro later found
  obtain ⟨session, present, same⟩ := keeps.earlier found
  rw [same.createdBy]
  exact fits session present

namespace Bound

variable {before after server : Server Options Fingerprint}

theorem initial : Bound config (Server.initial : Server Options Fingerprint) := by
  constructor
  · exact LockHeld.initial
  · intro ready
    cases ready
  · intro fingerprint found
    cases found
  · intro free binding found
    cases found
  · intro id task present
    cases present
  · intro sessionId session found
    cases found

theorem keep (bound : Bound config before) (lock : after.initLock = before.initLock)
    (binding : after.binding = before.binding)
    (fingerprint : after.fingerprint = before.fingerprint)
    (last : after.lastFingerprint = before.lastFingerprint)
    (ready : after.status = .ready → before.status = .ready)
    (registers : ∀ id task, after.registers.get? id = some task → task.phase.binds = true →
      before.registers.get? id = some task)
    (sessions : KeepsOrigins before.sessions after.sessions) : Bound config after := by
  constructor
  · exact bound.held.keep lock registers
  · intro isReady
    rw [lock, binding]
    exact bound.ready (ready isReady)
  · rw [fingerprint, last]
    exact bound.last
  · rw [lock, binding, fingerprint]
    intro free request found
    obtain ⟨same, stored, fits⟩ := bound.settled free request found
    obtain ⟨session, present⟩ := Option.isSome_iff_exists.mp stored
    obtain ⟨later, found, -⟩ := sessions.found present
    exact ⟨same, by rw [found]; rfl, fits.later sessions⟩
  · intro id task present binds
    rw [fingerprint]
    obtain ⟨same, fits⟩ := bound.pending id task (registers id task present binds) binds
    exact ⟨same, fun keeps => (fits keeps).later sessions⟩
  · intro sessionId later found
    obtain ⟨session, present, same⟩ := sessions.earlier found
    obtain ⟨request, created⟩ := bound.origin sessionId session present
    exact ⟨request, created.later same⟩

section

variable (bound : Bound config server)
include bound

theorem answer (id : RequestId) (reply : RegisterReply) : Bound config (server.answer id reply) :=
  bound.keep rfl rfl rfl rfl (fun ready => ready) (fun _ _ present _ => register_pop present)
    (.refl _)

theorem arriveRegister (request : RegisterRequest Options) :
    Bound config (server.arriveRegister request) := by
  unfold Server.arriveRegister
  dsimp only
  split
  · exact bound.keep rfl rfl rfl rfl (fun ready => ready)
      (fun _ _ present _ => register_pop present) (.refl _)
  · exact bound.keep rfl rfl rfl rfl (fun ready => ready)
      (fun _ _ present binds => register_set rfl present binds) (.refl _)

theorem prepareRegister (id : RequestId) (valid : Except ApiError Unit) :
    Bound config (server.prepareRegister id valid) := by
  unfold Server.prepareRegister
  split
  · split
    · exact bound.answer id _
    · exact bound.keep rfl rfl rfl rfl (fun ready => ready)
        (fun _ _ present binds => register_set rfl present binds) (.refl _)
  · exact bound

theorem keepSessions {sessions : SessionStore Fingerprint}
    (keeps : KeepsOrigins server.sessions sessions) :
    Bound config { server with sessions := sessions } :=
  bound.keep rfl rfl rfl rfl (fun ready => ready) (fun _ _ present _ => present) keeps

theorem markBackendError : Bound config server.markBackendError := by
  have keeps := keepsOrigins_markBackendError server
  unfold Server.markBackendError at keeps ⊢
  split
  · exact bound
  · next working =>
      rw [if_neg working] at keeps
      refine bound.keep rfl rfl rfl rfl ?_ (fun _ _ present _ => present) keeps
      intro ready
      cases ready

end

theorem elsewhere (bound : Bound config before) (lock : after.initLock = before.initLock)
    (binding : after.binding = before.binding)
    (fingerprint : after.fingerprint = before.fingerprint)
    (last : after.lastFingerprint = before.lastFingerprint)
    (status : after.status = before.status ∨ after.status ≠ .ready)
    (registers : after.registers = before.registers)
    (sessions : after.sessions = before.sessions) : Bound config after := by
  refine bound.keep lock binding fingerprint last ?_ ?_ ?_
  · intro ready
    rcases status with same | other
    · exact same.symm.trans ready
    · exact absurd ready other
  · intro id task present _
    rw [registers] at present
    exact present
  · rw [sessions]
    exact .refl _

theorem monitorFails (bound : Bound config server) : Bound config server.monitorFails := by
  unfold Server.monitorFails
  split
  · exact bound.markBackendError.elsewhere rfl rfl rfl rfl (.inl rfl) rfl rfl
  · exact bound

theorem endSubmission (bound : Bound config server) (id : RequestId)
    (verdict : Server.SubmissionVerdict) : Bound config (server.endSubmission id verdict) := by
  unfold Server.endSubmission
  split
  · have ended : Bound config { server with submissions := server.submissions.erase id } :=
      bound.elsewhere rfl rfl rfl rfl (.inl rfl) rfl rfl
    cases verdict with
    | refused => exact ended
    | unhealthy => exact ended.markBackendError
    | admitted => exact bound.elsewhere rfl rfl rfl rfl (.inl rfl) rfl rfl
  · exact bound

theorem shutdownAdapter (bound : Bound config server) : Bound config server.shutdownAdapter := by
  unfold Server.shutdownAdapter
  split <;> exact bound.elsewhere rfl rfl rfl rfl (.inl rfl) rfl rfl

variable {task : RegisterTask Options} {id : RequestId} {resetSessions : Bool}
variable {request : RegisterRequest Options}

theorem proceed {next : RegisterTask Options} (bound : Bound config before)
    (present : before.registers.get? id = some task) (binds : task.phase.binds = true)
    (registers : after.registers = before.registers.set id next)
    (request : next.request = task.request) (lock : after.initLock = before.initLock)
    (fingerprint : after.fingerprint = before.fingerprint)
    (last : after.lastFingerprint = before.lastFingerprint) (status : after.status = before.status)
    (fits : next.phase.resets = false → StoredFits config after.sessions next.request)
    (origin : ∀ sessionId session, after.sessions.get? sessionId = some session →
      ∃ request, CreatedFor config request session) : Bound config after := by
  have held := bound.held id task present binds
  refine
    { held := ?_
      ready := ?_
      last := ?_
      settled := ?_
      pending := ?_
      origin := origin }
  · exact bound.held.set present binds registers lock
  · intro ready
    rw [status] at ready
    have free := (bound.ready ready).1
    rw [held] at free
    cases free
  · rw [fingerprint, last]
    exact bound.last
  · intro free
    rw [lock, held] at free
    cases free
  · intro other found there holds
    rw [registers] at there
    rw [(bound.held.only present binds there holds).2, fingerprint, request]
    rw [request] at fits
    exact ⟨(bound.pending id task present binds).1, fits⟩

theorem startInitialize (bound : Bound config server)
    (present : server.registers.get? id = some task) (binds : task.phase.binds = true)
    (resets : task.phase.resets = resetSessions) :
    Bound config (server.startInitialize id task resetSessions) := by
  refine bound.proceed present binds rfl rfl rfl rfl rfl rfl ?_ ?_
  · intro _
    cases resetSessions with
    | true =>
      intro session found
      cases found
    | false => exact (bound.pending id task present binds).2 resets
  · intro sessionId session found
    cases resetSessions with
    | true => cases found
    | false => exact bound.origin sessionId session found

theorem teardownAdapter (bound : Bound config server)
    (present : server.registers.get? id = some task) (binds : task.phase.binds = true)
    (resets : task.phase.resets = resetSessions) :
    Bound config (server.teardownAdapter id task resetSessions) := by
  unfold Server.teardownAdapter
  split
  · exact bound.startInitialize present binds resets
  · refine bound.proceed present binds rfl rfl rfl rfl rfl rfl ?_ bound.origin
    intro keeps
    exact (bound.pending id task present binds).2 (resets.trans keeps)

def entered (config : RegisterConfig Options Fingerprint) (server : Server Options Fingerprint)
    (id : RequestId) (request : RegisterRequest Options) (adapter : AdapterId)
    (resetSessions : Bool) : Server Options Fingerprint :=
  { server with
    initLock := some id
    status := .initializing
    fingerprint := some (config.digest request)
    lastFingerprint := some (config.digest request)
    registers := server.registers.set id
      { request := request
        adapter := adapter
        phase := .stoppingMonitor resetSessions } }

theorem teardown_eq (config : RegisterConfig Options Fingerprint)
    (server : Server Options Fingerprint) (id : RequestId) (request : RegisterRequest Options)
    (adapter : AdapterId) (resetSessions : Bool) :
    Server.teardown
        { server with
          initLock := some id
          status := .initializing
          fingerprint := some (config.digest request)
          lastFingerprint := some (config.digest request) }
        id ⟨request, adapter, .locking⟩ resetSessions =
      if server.monitored then
        { entered config server id request adapter resetSessions with monitorRuns := false }
      else
        (entered config server id request adapter resetSessions).teardownAdapter id
          ⟨request, adapter, .stoppingMonitor resetSessions⟩ resetSessions := by
  cases monitored : server.monitored with
  | true => simp [Server.teardown, monitored, entered, Server.setRegister]
  | false =>
    cases current : server.adapter with
    | none =>
      simp [Server.teardown, monitored, Server.teardownAdapter, current, entered,
        Server.startInitialize, Server.setRegister]
    | some old =>
      simp [Server.teardown, monitored, Server.teardownAdapter, current, entered,
        Server.callShutdown, Server.setRegister]

section

variable (bound : Bound config server)
include bound

theorem entered_bound {adapter : AdapterId} (free : server.initLock = none)
    (fits : resetSessions = false → StoredFits config server.sessions request) :
    Bound config (entered config server id request adapter resetSessions) := by
  refine
    { held := ?_
      ready := ?_
      last := fun fingerprint found => found
      settled := ?_
      pending := ?_
      origin := bound.origin }
  · exact bound.held.enter free rfl rfl
  · intro ready
    cases ready
  · intro impossible
    cases impossible
  · intro other found there holds
    rw [(bound.held.onlyEntered free there holds).2]
    exact ⟨rfl, fits⟩

theorem fits_of_goesAhead [DecidableEq Fingerprint] {adapter : AdapterId}
    (collisionFree : Function.Injective config.digest)
    (safe : SafeRebinding config server (.enterRegister id))
    (present : server.registers.get? id = some ⟨request, adapter, .locking⟩)
    (free : server.initLock = none)
    (ahead : Server.entryOf config server request = .goesAhead resetSessions)
    (keeps : resetSessions = false) : StoredFits config server.sessions request := by
  cases old : server.binding with
  | none => exact (safe request adapter present free old).2
  | some binding =>
    -- The old binding stays only for its own fingerprint.
    have same : server.fingerprint = some (config.digest request) := by
      unfold Server.entryOf at ahead
      simp only [old, Option.isSome_some, and_true, Bool.and_true] at ahead
      split at ahead
      · cases ahead
      · split at ahead
        · cases ahead
        · split at ahead
          · cases ahead
          · split at ahead
            · cases ahead
            · rw [keeps] at ahead
              have resets := Server.Entry.goesAhead.inj ahead
              simpa using resets
    obtain ⟨stored, -, fits⟩ := bound.settled free binding old
    rw [same] at stored
    rw [collisionFree (Option.some.inj stored)]
    exact fits

theorem enterRegister [DecidableEq Fingerprint] (collisionFree : Function.Injective config.digest)
    (safe : SafeRebinding config server (.enterRegister id)) :
    Bound config (server.enterRegister config id) := by
  unfold Server.enterRegister
  split
  · next request adapter present =>
      split
      · exact bound
      · next unlocked =>
          have free : server.initLock = none := by simpa using unlocked
          split
          · exact bound.answer id _
          · exact bound.answer id _
          · next resetSessions ahead =>
              rw [teardown_eq]
              have fits := bound.fits_of_goesAhead collisionFree safe present free ahead
              have inside : Bound config (entered config server id request adapter resetSessions) :=
                bound.entered_bound free fits
              split
              · exact inside.elsewhere rfl rfl rfl rfl (.inl rfl) rfl rfl
              · refine inside.teardownAdapter ?_ rfl rfl
                exact get?_set_self _ _ _
  · exact bound

theorem monitorStopped : Bound config (server.monitorStopped id) := by
  unfold Server.monitorStopped
  split
  · next request adapter resetSessions present =>
      have unmonitored : Bound config { server with monitored := false } :=
        bound.elsewhere rfl rfl rfl rfl (.inl rfl) rfl rfl
      exact unmonitored.teardownAdapter present rfl rfl
  · exact bound

theorem adapterStopped : Bound config (server.adapterStopped id) := by
  unfold Server.adapterStopped
  split
  · next request adapter resetSessions present => exact bound.startInitialize present rfl rfl
  · exact bound

end

theorem failed (bound : Bound config before) (held : before.initLock = some id)
    (registers : after.registers = before.registers.pop id) (binding : after.binding = none)
    (status : after.status ≠ .ready)
    (fingerprint : after.fingerprint = before.fingerprint ∨ after.fingerprint = none)
    (last : after.lastFingerprint = before.lastFingerprint)
    (origin : ∀ sessionId session, after.sessions.get? sessionId = some session →
      ∃ request, CreatedFor config request session) : Bound config after := by
  refine
    { held := ?_
      ready := ?_
      last := ?_
      settled := ?_
      pending := ?_
      origin := origin }
  · exact bound.held.leave held registers
  · intro ready
    exact absurd ready status
  · intro stored found
    rw [last]
    rcases fingerprint with same | cleared
    · exact bound.last stored (same.symm.trans found)
    · cases cleared.symm.trans found
  · intro _ request found
    cases binding.symm.trans found
  · intro other found there holds
    rw [registers] at there
    rw [bound.held.released held there] at holds
    cases holds

theorem succeeded (bound : Bound config before) (held : before.initLock = some id)
    (registers : after.registers = before.registers.pop id) (lock : after.initLock = none)
    (binding : after.binding = some request) (fingerprint : after.fingerprint = before.fingerprint)
    (own : before.fingerprint = some (config.digest request))
    (last : after.lastFingerprint = before.lastFingerprint)
    (stored : (after.sessions.get? request.boundSessionId).isSome = true)
    (fits : StoredFits config after.sessions request)
    (origin : ∀ sessionId session, after.sessions.get? sessionId = some session →
      ∃ request, CreatedFor config request session) : Bound config after := by
  refine
    { held := ?_
      ready := ?_
      last := ?_
      settled := ?_
      pending := ?_
      origin := origin }
  · exact bound.held.leave held registers
  · intro _
    rw [lock, binding]
    exact ⟨rfl, rfl⟩
  · rw [fingerprint, last]
    exact bound.last
  · intro _ other found
    cases binding.symm.trans found
    rw [fingerprint]
    exact ⟨own, stored, fits⟩
  · intro other found there holds
    rw [registers] at there
    rw [bound.held.released held there] at holds
    cases holds

end Bound

theorem get?_makeRoom {maxSessions : Nat}
    (found : (SessionStore.makeRoom store maxSessions).get? sessionId = some session) :
    store.get? sessionId = some session := by
  unfold SessionStore.makeRoom SessionStore.evictOldestAborted at found
  split at found
  · split at found
    · exact found
    · rw [get?_pop] at found
      split at found
      · cases found
      · exact found
  · exact found

theorem get?_getOrCreate {other : SessionId} {found : StoredSession Fingerprint} {maxSessions : Nat}
    (present : (SessionStore.getOrCreate store sessionId session maxSessions).2.get? other =
      some found) :
    store.get? other = some found ∨
      store.get? sessionId = none ∧ other = sessionId ∧ found = session := by
  unfold SessionStore.getOrCreate at present
  split at present
  · exact .inl present
  · next absent =>
      split at present
      · exact .inl (get?_makeRoom present)
      · rw [get?_set] at present
        split at present
        · next same => exact .inr ⟨absent, same, (Option.some.inj present).symm⟩
        · exact .inl (get?_makeRoom present)

theorem getOrCreate_stores {store : SessionStore Fingerprint} {sessionId : SessionId}
    {session : StoredSession Fingerprint} {maxSessions : Nat}
    (created : (SessionStore.getOrCreate store sessionId session maxSessions).1 = true) :
    ((SessionStore.getOrCreate store sessionId session maxSessions).2.get? sessionId).isSome =
      true := by
  unfold SessionStore.getOrCreate at created ⊢
  split
  · next existing present => rw [present]; rfl
  · next absent =>
      simp only [absent] at created
      split at created
      · cases created
      · next room =>
          rw [if_neg room, get?_set_self]
          rfl

theorem newSession_createdFor (config : RegisterConfig Options Fingerprint)
    (request : RegisterRequest Options) (now : Nat) :
    CreatedFor config request (newSession config request now) :=
  { createdBy := rfl
    blackboxType := rfl
    routerBaseUrl := rfl
    systemPrompt := rfl }

namespace Bound

variable {server : Server Options Fingerprint}

theorem unready {status : ServerStatus} (other : decide (status = .ready) = false) :
    status ≠ .ready :=
  of_decide_eq_false other

theorem finishRegister {id : RequestId} (bound : Bound config server) (result : Initialization) :
    Bound config (server.finishRegister config id result) := by
  unfold Server.finishRegister
  split
  · next request adapter present =>
      have held := bound.held id _ present rfl
      obtain ⟨own, fits⟩ := bound.pending id _ present rfl
      cases result with
      | apiError error | failed message =>
        exact bound.failed held rfl rfl (unready rfl) (.inl rfl) rfl bound.origin
      | protocolError message =>
        exact bound.failed held rfl rfl (unready rfl) (.inr rfl) rfl bound.origin
      | succeeded =>
        let session := newSession config request server.now
        have new := newSession_createdFor config request server.now
        have origin (sessionId : SessionId) (found : StoredSession Fingerprint)
            (there : (SessionStore.getOrCreate server.sessions request.boundSessionId session
              (config.maxSessions request)).2.get? sessionId = some found) :
            ∃ request, CreatedFor config request found := by
          rcases get?_getOrCreate there with earlier | ⟨-, -, same⟩
          · exact bound.origin sessionId found earlier
          · rw [same]
            exact ⟨request, new⟩
        have later : StoredFits config (SessionStore.getOrCreate server.sessions
            request.boundSessionId session (config.maxSessions request)).2 request := by
          intro found there
          rcases get?_getOrCreate there with earlier | ⟨-, -, same⟩
          · exact fits rfl found earlier
          · rw [same]
            exact new.createdBy
        have stores := @getOrCreate_stores _ server.sessions request.boundSessionId session
          (config.maxSessions request)
        dsimp only
        generalize SessionStore.getOrCreate server.sessions request.boundSessionId session
          (config.maxSessions request) = creation at origin later stores ⊢
        rcases creation with ⟨created, sessions⟩
        cases created with
        | false => exact bound.failed held rfl rfl (unready rfl) (.inl rfl) rfl origin
        | true =>
          exact bound.succeeded held rfl rfl rfl rfl own rfl (stores rfl) later origin
  · exact bound

theorem after_step [DecidableEq Fingerprint] {action : Action Options}
    (bound : Bound config server) (collisionFree : Function.Injective config.digest)
    (safe : SafeRebinding config server action) : Bound config (step config server action) := by
  cases action with
  | arriveRegister request => exact bound.arriveRegister request
  | prepareRegister id valid => exact bound.prepareRegister id valid
  | enterRegister id => exact bound.enterRegister collisionFree safe
  | monitorStopped id => exact bound.monitorStopped
  | adapterStopped id => exact bound.adapterStopped
  | finishRegister id result => exact bound.finishRegister result
  | monitorFails => exact bound.monitorFails
  | touchSession sessionId =>
    refine bound.keepSessions (keepsOrigins_changeSession server sessionId (fun session => ?_))
    exact { SameOrigin.refl session with }
  | abortSession sessionId =>
    refine bound.keepSessions (keepsOrigins_changeSession server sessionId (fun session => ?_))
    split
    · exact .refl session
    · exact { SameOrigin.refl session with }
  | unknownTurn sessionId =>
    exact bound.keepSessions
      (keepsOrigins_changeSession server sessionId (sameOrigin_desynced server.now))
  | turnUnhealthy => exact bound.markBackendError
  | arriveSubmission =>
    change Bound config server.arriveSubmission
    unfold Server.arriveSubmission
    split <;> exact bound.elsewhere rfl rfl rfl rfl (.inl rfl) rfl rfl
  | endSubmission id verdict => exact bound.endSubmission id verdict
  | beginShutdown =>
    change Bound config server.beginShutdown
    unfold Server.beginShutdown
    split
    · exact bound.elsewhere rfl rfl rfl rfl (.inr (unready rfl)) rfl rfl
    · exact bound
  | shutdownDrained =>
    change Bound config server.shutdownDrained
    unfold Server.shutdownDrained
    split
    · split
      · exact bound.elsewhere rfl rfl rfl rfl (.inl rfl) rfl rfl
      · exact bound.shutdownAdapter
    · exact bound
  | shutdownMonitorStopped =>
    change Bound config server.shutdownMonitorStopped
    unfold Server.shutdownMonitorStopped
    split
    · have unmonitored : Bound config { server with monitored := false } :=
        bound.elsewhere rfl rfl rfl rfl (.inl rfl) rfl rfl
      exact unmonitored.shutdownAdapter
    · exact bound
  | shutdownAdapterStopped =>
    change Bound config server.shutdownAdapterStopped
    unfold Server.shutdownAdapterStopped
    split
    · exact bound.elsewhere rfl rfl rfl rfl (.inl rfl) rfl rfl
    · exact bound
  | tick now => exact bound.elsewhere rfl rfl rfl rfl (.inl rfl) rfl rfl

theorem readyFits (bound : Bound config server) (collisionFree : Function.Injective config.digest) :
    ReadyFits config server := by
  intro ready
  obtain ⟨free, some_binding⟩ := bound.ready ready
  obtain ⟨binding, found⟩ := Option.isSome_iff_exists.mp some_binding
  obtain ⟨own, stored, fits⟩ := bound.settled free binding found
  obtain ⟨session, present⟩ := Option.isSome_iff_exists.mp stored
  obtain ⟨request, created⟩ := bound.origin _ session present
  have same : request = binding :=
    collisionFree (created.createdBy.symm.trans (fits session present))
  subst same
  exact ⟨request, session, found, own, present, created⟩

end Bound

theorem allAborted_of_closed (closed : SessionStore.hasOpenSessions store = false) :
    AllAborted store := by
  intro sessionId session found
  have member : session ∈ store.values :=
    List.mem_map.mpr ⟨(sessionId, session), mem_of_get? found, rfl⟩
  have each := List.any_eq_false.mp closed session member
  simpa using each

theorem rebindsClosed_of_safe [DecidableEq Fingerprint] {server : Server Options Fingerprint}
    {action : Action Options} (bound : Bound config server)
    (safe : SafeRebinding config server action) : RebindsClosed config server action := by
  cases action with
  | enterRegister id =>
    intro request adapter present free different
    cases old : server.binding with
    | none => exact .inr ((safe request adapter present free old).1 different)
    | some binding =>
      have other : server.fingerprint ≠ some (config.digest request) :=
        fun same => different (bound.last _ same)
      cases closed : SessionStore.hasOpenSessions server.sessions with
      | false => exact .inr (allAborted_of_closed closed)
      | true =>
        left
        simp only [Server.entryOf, other, old, closed, decide_false]
        split
        · exact ⟨_, rfl⟩
        · split
          · exact ⟨_, rfl⟩
          · exact ⟨openSessionsError, by simp⟩
  | _ => trivial

/-- In every run in which a register that finds no binding meets no session of another one,
another fingerprint is only bound over closed sessions, and a ready server's session was created
for its binding. -/
theorem bindings_consistent_of_safe_rebinding [DecidableEq Fingerprint]
    (config : RegisterConfig Options Fingerprint)
    (collisionFree : Function.Injective config.digest) {actions : List (Action Options)}
    (safe : Runs.Admits (step config) (SafeRebinding config) Server.initial actions) :
    (∀ past action, past ++ [action] <+: actions →
      RebindsClosed config (Runs.run (step config) Server.initial past) action) ∧
    ∀ past, past <+: actions → ReadyFits config (Runs.run (step config) Server.initial past) := by
  have bound {past : List (Action Options)} (early : past <+: actions) :
      Bound config (Runs.run (step config) Server.initial past) :=
    Runs.prefix_invariant (fun _ _ bound safe => bound.after_step collisionFree safe)
      Bound.initial safe early
  refine ⟨?_, fun past early => (bound early).readyFits collisionFree⟩
  intro past action early
  have before : past <+: actions := (List.prefix_append past [action]).trans early
  obtain ⟨rest, split⟩ := early
  rw [← split, List.append_assoc, Runs.admits_append] at safe
  exact rebindsClosed_of_safe (bound before) safe.2.1

def plainConfig : RegisterConfig Unit (RegisterRequest Unit) :=
  { digest := id
    maxSessions := fun _ => 1
    readText := fun _ _ => none }

def plainRequest (router : String) : RegisterRequest Unit :=
  { blackboxType := "codex"
    routerBaseUrl := router
    boundSessionId := "session"
    systemPromptFile := none
    options := () }

def registeredOnce : List (Action Unit) :=
  [.arriveRegister (plainRequest "a"), .prepareRegister 0 (.ok ()), .enterRegister 0,
    .finishRegister 0 .succeeded]

/-- The backend fails, the same register fails and then succeeds, and after an abort of the
session another router is bound. -/
def reboundAfterAbort : List (Action Unit) :=
  registeredOnce ++
    [.monitorFails, .arriveRegister (plainRequest "a"), .prepareRegister 1 (.ok ()),
      .enterRegister 1, .monitorStopped 1, .adapterStopped 1, .finishRegister 1 (.failed "down"),
      .arriveRegister (plainRequest "a"), .prepareRegister 2 (.ok ()), .enterRegister 2,
      .finishRegister 2 .succeeded, .abortSession "session",
      .arriveRegister (plainRequest "b"), .prepareRegister 3 (.ok ()), .enterRegister 3,
      .monitorStopped 3, .adapterStopped 3, .finishRegister 3 .succeeded]

theorem bindings_consistent_rebound :
    (Runs.run (step plainConfig) Server.initial reboundAfterAbort).binding =
        some (plainRequest "b") ∧
      ReadyFits plainConfig (Runs.run (step plainConfig) Server.initial registeredOnce) ∧
      ReadyFits plainConfig (Runs.run (step plainConfig) Server.initial reboundAfterAbort) := by
  have safe : Runs.Admits (step plainConfig) (SafeRebinding plainConfig) Server.initial
      reboundAfterAbort := by
    refine ⟨trivial, trivial, ?_, trivial, trivial, trivial, trivial, ?_, trivial, trivial, trivial,
      trivial, trivial, ?_, trivial, trivial, trivial, trivial, ?_, trivial, trivial, trivial,
      trivial⟩
    · intro request adapter present free unbound
      refine ⟨fun _ sessionId session found => ?_, fun session found => ?_⟩
      · cases found
      · cases found
    · intro request adapter present free unbound
      cases unbound
    · intro request adapter present free unbound
      cases present
      refine ⟨fun other => absurd rfl other, fun session found => ?_⟩
      cases found
      rfl
    · intro request adapter present free unbound
      cases unbound
  have consistent := bindings_consistent_of_safe_rebinding plainConfig Function.injective_id safe
  exact ⟨by decide +kernel,
    consistent.2 registeredOnce (List.prefix_append registeredOnce _),
    consistent.2 reboundAfterAbort (List.prefix_refl _)⟩

/-- The backend fails, registering again fails, and then another router is registered. -/
def reboundAfterFailure : List (Action Unit) :=
  registeredOnce ++
    [.monitorFails, .arriveRegister (plainRequest "a"), .prepareRegister 1 (.ok ()),
      .enterRegister 1, .monitorStopped 1, .adapterStopped 1, .finishRegister 1 (.failed "down"),
      .arriveRegister (plainRequest "b"), .prepareRegister 2 (.ok ())]

/-- The new binding is ready with the desynced session of the old one. -/
theorem rebound_over_open_session :
    ¬ RebindsClosed plainConfig (Runs.run (step plainConfig) Server.initial reboundAfterFailure)
        (.enterRegister 2) ∧
      ¬ ReadyFits plainConfig (Runs.run (step plainConfig) Server.initial
        (reboundAfterFailure ++ [.enterRegister 2, .finishRegister 2 .succeeded])) := by
  constructor
  · intro closed
    have waiting : (Runs.run (step plainConfig) Server.initial
        reboundAfterFailure).registers.get? 2 = some ⟨plainRequest "b", 2, .locking⟩ := by
      decide +kernel
    have ahead : Server.entryOf plainConfig (Runs.run (step plainConfig) Server.initial
        reboundAfterFailure) (plainRequest "b") = .goesAhead false := by
      decide +kernel
    have desynced : ((Runs.run (step plainConfig) Server.initial
        reboundAfterFailure).sessions.get? "session").map StoredSession.state = some .desynced := by
      decide +kernel
    obtain ⟨session, found, state⟩ := Option.map_eq_some_iff.mp desynced
    have decided := closed (plainRequest "b") 2 waiting (by decide +kernel) (by decide +kernel)
    rcases decided with ⟨error, refused⟩ | aborted
    · rw [ahead] at refused
      cases refused
    · have same := aborted "session" session found
      rw [state] at same
      cases same
  · intro fits
    obtain ⟨binding, session, bound, -, found, created⟩ := fits (by decide +kernel)
    have router : (Runs.run (step plainConfig) Server.initial (reboundAfterFailure ++
        [.enterRegister 2, .finishRegister 2 .succeeded])).binding = some (plainRequest "b") := by
      decide +kernel
    cases router.symm.trans bound
    have stored : ((Runs.run (step plainConfig) Server.initial (reboundAfterFailure ++
        [.enterRegister 2, .finishRegister 2 .succeeded])).sessions.get? "session").map
          StoredSession.routerBaseUrl = some "a" := by
      decide +kernel
    obtain ⟨other, there, url⟩ := Option.map_eq_some_iff.mp stored
    cases there.symm.trans found
    rw [created.routerBaseUrl] at url
    exact absurd url (by decide)

end Dressage.Blackbox.Registration

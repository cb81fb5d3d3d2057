/-
What a gateway lease can rely on.

The count is exact in every run. A lease has a running gateway with its own
configuration as long as nobody acquires while a last release is still stopping the
thread, the readiness check judges the thread rightly, and the server does not fail
under a lease.
-/

import Dressage.Harbor.GatewayRuntime

namespace Dressage.Harbor

open Lib List Option

def ThreadPhase.isOpen : ThreadPhase → Bool
  | .created | .serving | .ending => true
  | .unstarted | .closed | .dead => false

def Client.Relies (client : Client) : Prop :=
  client.phase = .held ∨ client.phase = .acquiring ∧ client.start = .returned

instance (client : Client) : Decidable client.Relies :=
  inferInstanceAs (Decidable (_ ∨ _))

def Client.Waits (client : Client) : Prop :=
  client.phase = .acquiring ∧ client.start = .waitingReady

theorem Client.Relies.counted {client : Client} (relies : client.Relies) :
    client.phase.isCounted = true := by
  rcases relies with held | ⟨acquiring, _⟩
  · rw [held]
    rfl
  · rw [acquiring]
    rfl

theorem Client.Waits.counted {client : Client} (waits : client.Waits) :
    client.phase.isCounted = true := by
  rw [waits.1]
  rfl

namespace GatewayRuntime

variable {Config : Type} {state : GatewayRuntime Config}

def occupied (state : GatewayRuntime Config) : Nat :=
  state.clients.countP (fun client => client.phase.isCounted)

def Counted (state : GatewayRuntime Config) : Prop := state.refcount = state.occupied

def LoopRuns (state : GatewayRuntime Config) : Prop :=
  ∃ owner, state.loop.bind (fun thread => state.threads[thread]?) = some owner ∧
    owner.phase = .serving ∧ owner.shouldExit = false

def HasConfig (gatewayFingerprint : Config → String) (state : GatewayRuntime Config)
    (fingerprint : String) : Prop :=
  ∃ config, state.config = some config ∧ gatewayFingerprint config = fingerprint

structure Served (gatewayFingerprint : Config → String) (state : GatewayRuntime Config) :
    Prop where
  runs : ∀ client ∈ state.clients, client.phase = .held → state.LoopRuns
  notStopping : ∀ client ∈ state.clients, client.phase = .held →
    ∀ other ∈ state.clients, other.phase.isStopping = false
  config : ∀ client ∈ state.clients, client.phase = .held →
    state.HasConfig gatewayFingerprint client.fingerprint

/-- Nobody acquires while a last release is not over, the readiness check finds the
gateway running only where its loop runs and starts a thread only where no older one
is left, and the server does not raise under a lease. -/
def Quiet (state : GatewayRuntime Config) : Event Config → Prop
  | .acquire _ => ∀ client ∈ state.clients, client.phase.isStopping = false
  | .startBlocking number _ =>
    state.startLock = none → state.startOf number = some .waitingLock →
      if state.isRunning then state.phaseOf number = some .acquiring → state.LoopRuns
      else ∀ owner ∈ state.threads, owner.phase.isOpen = false
  | .leaveServe thread true =>
    state.threadPhase thread = some .serving → ∀ client ∈ state.clients, ¬ client.Relies
  | _ => True

instance (state : GatewayRuntime Config) : Decidable state.LoopRuns :=
  inferInstanceAs (Decidable (∃ owner ∈ state.loop.bind (fun thread => state.threads[thread]?),
    owner.phase = .serving ∧ owner.shouldExit = false))

instance (state : GatewayRuntime Config) (event : Event Config) :
    Decidable (state.Quiet event) :=
  match event with
  | .acquire _ =>
    inferInstanceAs (Decidable (∀ client ∈ state.clients, client.phase.isStopping = false))
  | .startBlocking number _ =>
    inferInstanceAs (Decidable (state.startLock = none →
      state.startOf number = some .waitingLock →
        if state.isRunning then state.phaseOf number = some .acquiring → state.LoopRuns
        else ∀ owner ∈ state.threads, owner.phase.isOpen = false))
  | .leaveServe thread true =>
    inferInstanceAs (Decidable (state.threadPhase thread = some .serving →
      ∀ client ∈ state.clients, ¬ client.Relies))
  | .leaveServe _ false | .finishStart _ _ | .resumeAcquire _ | .cancelAcquire _ | .release _
  | .releaseLease _ _ | .finishShutdown _ | .cancelShutdown _ | .dropShutdown _ | .awaitStop _ _
  | .joinThread _ _ | .clearConfig _ | .beginThread _ _ | .closeLoop _ | .die _ =>
    inferInstanceAs (Decidable True)

variable {number : Nat} {start : StartCall} {thread : ThreadId} {before : LeasePhase}
variable {next : GatewayRuntime Config} {owner : OwnerThread}

theorem phaseOf_eq_some {phase : LeasePhase} (found : state.phaseOf number = some phase) :
    ∃ client, state.clients[number]? = some client ∧ client.phase = phase :=
  map_eq_some_iff.mp found

theorem startOf_eq_some (found : state.startOf number = some start) :
    ∃ client, state.clients[number]? = some client ∧ client.start = start :=
  map_eq_some_iff.mp found

theorem threadPhase_eq_some {phase : ThreadPhase} (found : state.threadPhase thread = some phase) :
    ∃ owner, state.threads[thread]? = some owner ∧ owner.phase = phase :=
  map_eq_some_iff.mp found

theorem occupied_toPhase (found : state.phaseOf number = some before) (after : LeasePhase) :
    (state.toPhase number after).occupied + (if before.isCounted then 1 else 0) =
      state.occupied + (if after.isCounted then 1 else 0) := by
  obtain ⟨client, atClient, rfl⟩ := phaseOf_eq_some found
  exact Lists.countP_modify _ atClient _

theorem occupied_toStart (number : Nat) (start : StartCall) :
    (state.toStart number start).occupied = state.occupied := by
  cases atClient : state.clients[number]? with
  | none =>
    unfold toStart occupied
    rw [modify_eq_self (by simpa using atClient)]
  | some client =>
    have kept := Lists.countP_modify (fun client : Client => client.phase.isCounted) atClient
      (fun client => { client with start := start })
    exact Nat.add_right_cancel kept

theorem Counted.initial : Counted (initial : GatewayRuntime Config) := rfl

theorem Counted.of_clients (counted : state.Counted) (clients : next.clients = state.clients)
    (refcount : next.refcount = state.refcount) :
    next.Counted := by
  unfold Counted occupied
  rw [clients, refcount]
  exact counted

theorem Counted.toStart (counted : state.Counted) (number : Nat) (start : StartCall) :
    (state.toStart number start).Counted := by
  unfold Counted
  rw [occupied_toStart]
  exact counted

theorem Counted.toPhase (counted : state.Counted) (after : LeasePhase)
    (found : state.phaseOf number = some before) (same : after.isCounted = before.isCounted) :
    (state.toPhase number after).Counted := by
  have moved := occupied_toPhase found after
  rw [same] at moved
  unfold Counted
  rw [Nat.add_right_cancel moved]
  exact counted

def countDown (state : GatewayRuntime Config) (number : Nat) (after : LeasePhase) :
    GatewayRuntime Config :=
  { state.toPhase number after with refcount := state.refcount - 1 }

section

variable (counted : state.Counted)
include counted

theorem Counted.countDown (after : LeasePhase) (found : state.phaseOf number = some before)
    (left : before.isCounted = true) (gone : after.isCounted = false) :
    (state.countDown number after).Counted := by
  have moved := occupied_toPhase found after
  rw [left, gone] at moved
  simp only [if_true, Bool.false_eq_true, if_false] at moved
  have exact : state.refcount = state.occupied := counted
  change state.refcount - 1 = ((state.toPhase number after).occupied : Int)
  omega

theorem Counted.giveUp (found : state.phaseOf number = some .acquiring) :
    (state.giveUp number).Counted := by
  have down := counted.countDown .failed found rfl rfl
  unfold GatewayRuntime.giveUp
  simp only
  split
  · exact down.of_clients rfl rfl
  · exact down

theorem Counted.releaseLease (number : Nat) (reached : Bool) :
    (state.releaseLease number reached).Counted := by
  unfold GatewayRuntime.releaseLease
  split
  · next found =>
      have down := fun (after : LeasePhase) (gone : after.isCounted = false) =>
        counted.countDown after found rfl gone
      split
      · next empty =>
          have moved := occupied_toPhase found .released
          have exact : state.refcount = state.occupied := counted
          simp only [LeasePhase.isCounted] at moved
          simp only [if_true, Bool.false_eq_true, if_false] at moved
          omega
      · simp only
        split
        · split <;> exact down _ rfl
        · exact down _ rfl
  · exact counted

theorem Counted.exitServer : state.exitServer.Counted := by
  unfold GatewayRuntime.exitServer
  split
  · exact counted.of_clients rfl rfl
  · exact counted

end

theorem phaseOf_exitServer (state : GatewayRuntime Config) (number : Nat) :
    state.exitServer.phaseOf number = state.phaseOf number := by
  unfold exitServer
  split <;> rfl

theorem Counted.step (gatewayFingerprint : Config → String) (counted : state.Counted)
    (event : Event Config) : (state.step gatewayFingerprint event).Counted := by
  cases event with
  | acquire config =>
    unfold GatewayRuntime.step acquire
    simp only
    split
    · exact counted
    · have exact : state.refcount = state.occupied := counted
      have one : ∀ next : GatewayRuntime Config, next.clients = state.clients →
          next.refcount = state.refcount →
          Counted { next with
            refcount := next.refcount + 1
            clients := next.clients ++
              [{ fingerprint := gatewayFingerprint config
                 start := .waitingLock
                 phase := .acquiring }] } := by
        intro next clients refcount
        unfold Counted occupied
        rw [clients, refcount, countP_append, exact]
        rfl
      split <;> exact one _ rfl rfl
  | startBlocking number spawned =>
    unfold GatewayRuntime.step startBlocking
    simp only
    have fresh : ∀ phase, (state.newThread phase).Counted := fun phase =>
      counted.of_clients rfl rfl
    split
    · split
      · exact counted.toStart number _
      · split
        · exact ((fresh _).toStart number _).of_clients rfl rfl
        · exact (fresh _).toStart number _
    · exact counted
  | finishStart number timedOut =>
    unfold GatewayRuntime.step finishStart
    simp only
    split
    · split
      · exact (counted.toStart number _).of_clients rfl rfl
      · split
        · exact (counted.toStart number _).of_clients rfl rfl
        · exact counted
    · exact counted
  | resumeAcquire number =>
    unfold GatewayRuntime.step resumeAcquire
    simp only
    split
    · next found =>
        split
        · exact counted.toPhase _ found rfl
        · exact counted.giveUp found
        · exact counted
    · exact counted
  | cancelAcquire number =>
    unfold GatewayRuntime.step cancelAcquire
    simp only
    split
    · next found => exact counted.giveUp found
    · exact counted
  | release number =>
    unfold GatewayRuntime.step release
    simp only
    split
    · next found => exact counted.toPhase _ found rfl
    · exact counted
  | releaseLease number reached => exact counted.releaseLease number reached
  | finishShutdown number =>
    have phases := state.phaseOf_exitServer number
    unfold GatewayRuntime.step finishShutdown
    simp only
    split
    · next found =>
        split
        · exact counted.exitServer.toPhase _ (phases.trans found) rfl
        · exact counted
    · next found =>
        split
        · exact counted.exitServer.toPhase _ (phases.trans found) rfl
        · exact counted
    · exact counted
  | cancelShutdown number =>
    unfold GatewayRuntime.step cancelShutdown
    simp only
    split
    · next found => exact counted.toPhase _ found rfl
    · exact counted
  | dropShutdown number =>
    unfold GatewayRuntime.step dropShutdown
    simp only
    split
    · next found => exact counted.toPhase _ found rfl
    · next found => exact counted.toPhase _ found rfl
    · exact counted
  | awaitStop number timedOut =>
    unfold GatewayRuntime.step awaitStop
    simp only
    split
    · next found =>
        split
        · exact counted.toPhase _ found rfl
        · split
          · split <;> exact counted.toPhase _ found rfl
          · exact counted
    · exact counted
  | joinThread number timedOut =>
    unfold GatewayRuntime.step joinThread
    simp only
    split
    · next found =>
        split
        · exact counted.toPhase _ found rfl
        · split
          · exact (counted.toPhase .clearing found rfl).of_clients rfl rfl
          · exact counted
    · exact counted
  | clearConfig number =>
    unfold GatewayRuntime.step clearConfig
    simp only
    split
    · next found =>
        exact (counted.toPhase .released found rfl).of_clients rfl rfl
    · exact counted
  | beginThread thread start =>
    unfold GatewayRuntime.step beginThread
    simp only
    split
    · split <;> exact counted.of_clients rfl rfl
    · exact counted
  | leaveServe thread raises =>
    unfold GatewayRuntime.step leaveServe
    simp only
    split
    · split
      · split
        · exact counted.of_clients rfl rfl
        · split
          · exact counted.of_clients rfl rfl
          · exact counted
      · exact counted
    · exact counted
  | closeLoop thread =>
    unfold GatewayRuntime.step closeLoop
    simp only
    split
    · exact counted.of_clients rfl rfl
    · exact counted
  | die thread =>
    unfold GatewayRuntime.step die
    simp only
    split
    · exact counted.of_clients rfl rfl
    · exact counted

theorem Counted.refcount_pos (counted : state.Counted) {client : Client}
    (member : client ∈ state.clients) (counts : client.phase.isCounted = true) :
    0 < state.refcount := by
  have some : 0 < state.occupied := countP_pos_iff.mpr ⟨client, member, counts⟩
  have exact : state.refcount = state.occupied := counted
  omega

theorem Counted.uncounted (counted : state.Counted) (empty : state.refcount = 0) :
    ∀ client ∈ state.clients, client.phase.isCounted = false := by
  intro client member
  rw [← Bool.not_eq_true]
  intro counts
  have positive := counted.refcount_pos member counts
  omega

inductive Starting (state : GatewayRuntime Config) : Prop where
  | created {owner : OwnerThread} (newest : state.threads.getLast? = some owner)
    (phase : owner.phase = .created) (stays : owner.shouldExit = false)
    (notReady : state.ready = false) : Starting state
  | serving {owner : OwnerThread} (newest : state.threads.getLast? = some owner)
    (phase : owner.phase = .serving) (stays : owner.shouldExit = false) : Starting state
  | failed (begun : ∀ owner, state.threads.getLast? = some owner → owner.phase ≠ .created)
    (error : state.startupError = true) : Starting state

structure Sound (gatewayFingerprint : Config → String) (state : GatewayRuntime Config) :
    Prop where
  stopping : ∀ client ∈ state.clients, client.phase.isStopping = true → state.refcount = 0
  config : ∀ client ∈ state.clients, client.phase.isCounted = true →
    state.HasConfig gatewayFingerprint client.fingerprint ∧
      state.configFingerprint = some client.fingerprint
  lock : ∀ number, state.startOf number = some .waitingReady → state.startLock = some number
  newest : ∀ (thread : ThreadId) (owner : OwnerThread), state.threads[thread]? = some owner →
    owner.phase.isOpen = true → thread + 1 = state.threads.length
  serving : ∀ (thread : ThreadId) (owner : OwnerThread), state.threads[thread]? = some owner →
    owner.phase = .serving → state.loop = some thread ∧ state.ready = true
  relied : ∀ client ∈ state.clients, client.Relies → state.LoopRuns
  waiting : ∀ client ∈ state.clients, client.Waits → state.Starting

variable {gatewayFingerprint : Config → String}

theorem Sound.initial : Sound gatewayFingerprint (initial : GatewayRuntime Config) := by
  constructor
  · intro client impossible
    cases impossible
  · intro client impossible
    cases impossible
  · intro number impossible
    cases impossible
  · intro thread owner impossible
    cases impossible
  · intro thread owner impossible
    cases impossible
  · intro client impossible
    cases impossible
  · intro client impossible
    cases impossible

theorem Sound.served (sound : Sound gatewayFingerprint state) (counted : state.Counted) :
    Served gatewayFingerprint state := by
  have counts : ∀ client : Client, client.phase = .held → client.phase.isCounted = true := by
    intro client held
    rw [held]
    rfl
  constructor
  · exact fun client member held => sound.relied client member (.inl held)
  · intro client member held other present
    rw [← Bool.not_eq_true]
    intro stops
    have positive := counted.refcount_pos member (counts client held)
    have empty := sound.stopping other present stops
    omega
  · exact fun client member held => (sound.config client member (counts client held)).1

theorem Sound.unrelied (counted : state.Counted) (empty : state.refcount = 0) :
    ∀ client ∈ state.clients, ¬ client.Relies ∧ ¬ client.Waits := by
  intro client member
  have uncounted := counted.uncounted empty client member
  constructor
  · intro relies
    rw [relies.counted] at uncounted
    cases uncounted
  · intro waits
    rw [waits.counted] at uncounted
    cases uncounted

structure SameClients (state next : GatewayRuntime Config) : Prop where
  clients : next.clients = state.clients
  refcount : next.refcount = state.refcount
  config : next.config = state.config
  configFingerprint : next.configFingerprint = state.configFingerprint
  startLock : next.startLock = state.startLock

theorem Sound.ofThreads (sound : Sound gatewayFingerprint state) (same : SameClients state next)
    (newest : ∀ (thread : ThreadId) (owner : OwnerThread), next.threads[thread]? = some owner →
      owner.phase.isOpen = true → thread + 1 = next.threads.length)
    (serving : ∀ (thread : ThreadId) (owner : OwnerThread), next.threads[thread]? = some owner →
      owner.phase = .serving → next.loop = some thread ∧ next.ready = true)
    (relied : ∀ client ∈ state.clients, client.Relies → state.LoopRuns → next.LoopRuns)
    (waiting : ∀ client ∈ state.clients, client.Waits → state.Starting → next.Starting) :
    Sound gatewayFingerprint next := by
  constructor
  · rw [same.clients, same.refcount]
    exact sound.stopping
  · unfold HasConfig
    rw [same.clients, same.config, same.configFingerprint]
    exact sound.config
  · unfold startOf
    rw [same.clients, same.startLock]
    exact sound.lock
  · exact newest
  · exact serving
  · rw [same.clients]
    exact fun client member relies =>
      relied client member relies (sound.relied client member relies)
  · rw [same.clients]
    exact fun client member waits =>
      waiting client member waits (sound.waiting client member waits)

theorem Sound.not_runs_of_open (sound : Sound gatewayFingerprint state)
    (atThread : state.threads[thread]? = some owner) (isOpen : owner.phase.isOpen = true)
    (elsewhere : owner.phase ≠ .serving) :
    ¬ state.LoopRuns := by
  rintro ⟨other, atLoop, serves, _⟩
  obtain ⟨looped, _, atLoop⟩ := bind_eq_some_iff.mp atLoop
  have here := sound.newest thread owner atThread isOpen
  have there := sound.newest looped other atLoop (by rw [serves]; rfl)
  have same : looped = thread := Nat.succ.inj (there.trans here.symm)
  rw [same, atThread, some_inj] at atLoop
  exact elsewhere (atLoop ▸ serves)

theorem getLast_of_newest (atThread : state.threads[thread]? = some owner)
    (newest : thread + 1 = state.threads.length) : state.threads.getLast? = some owner := by
  rw [getLast?_eq_getElem?, ← newest]
  exact atThread

theorem getElem_toThreadPhase {other : ThreadId} {phase : ThreadPhase}
    (found : (state.toThreadPhase thread phase).threads[other]? = some owner) :
    (other = thread ∧ owner.phase = phase) ∨
      (other ≠ thread ∧ state.threads[other]? = some owner) := by
  change (state.threads.modify thread _)[other]? = some owner at found
  rw [getElem?_modify] at found
  obtain ⟨before, atOther, changed⟩ := map_eq_some_iff.mp found
  by_cases same : thread = other
  · rw [if_pos same] at changed
    exact .inl ⟨same.symm, changed ▸ rfl⟩
  · rw [if_neg same] at changed
    exact .inr ⟨fun equal => same equal.symm, changed ▸ atOther⟩

theorem length_toThreadPhase (thread : ThreadId) (phase : ThreadPhase) :
    (state.toThreadPhase thread phase).threads.length = state.threads.length :=
  length_modify ..

theorem getLast_toThreadPhase (atThread : state.threads[thread]? = some owner)
    (newest : thread + 1 = state.threads.length) (phase : ThreadPhase) :
    (state.toThreadPhase thread phase).threads.getLast? = some { owner with phase := phase } := by
  rw [getLast?_eq_getElem?, length_toThreadPhase, ← newest]
  change (state.threads.modify thread _)[thread]? = _
  rw [getElem?_modify_eq, atThread]
  rfl

theorem Starting.error (starting : state.Starting) (last : state.threads.getLast? = some owner)
    (begun : owner.phase ≠ .created) (leaves : owner.phase = .serving → owner.shouldExit = true) :
    state.startupError = true := by
  cases starting with
  | created newest phase stays notReady =>
    rw [last, some_inj] at newest
    exact absurd (newest ▸ phase) begun
  | serving newest phase stays =>
    rw [last, some_inj] at newest
    rw [← newest] at phase stays
    rw [leaves phase] at stays
    cases stays
  | failed begun error => exact error

theorem Starting.ofError (atThread : state.threads[thread]? = some owner)
    (newest : thread + 1 = state.threads.length) (phase : ThreadPhase) (begun : phase ≠ .created)
    (threads : next.threads = (state.toThreadPhase thread phase).threads)
    (error : next.startupError = true) : next.Starting := by
  refine Starting.failed ?_ error
  intro last isLast
  rw [threads, getLast_toThreadPhase atThread newest phase, some_inj] at isLast
  rw [← isLast]
  exact begun

section

variable (sound : Sound gatewayFingerprint state)

include sound

theorem Sound.moveThread (atThread : state.threads[thread]? = some owner)
    (isOpen : owner.phase.isOpen = true) (phase : ThreadPhase) (same : SameClients state next)
    (threads : next.threads = (state.toThreadPhase thread phase).threads)
    (serves : phase = .serving → next.loop = some thread ∧ next.ready = true)
    (relied : ∀ client ∈ state.clients, client.Relies → state.LoopRuns → next.LoopRuns)
    (waiting : ∀ client ∈ state.clients, client.Waits → state.Starting → next.Starting) :
    Sound gatewayFingerprint next := by
  have newest := sound.newest thread owner atThread isOpen
  refine sound.ofThreads same ?_ ?_ relied waiting
  · intro other moved found opened
    rw [threads] at found
    rw [threads, length_toThreadPhase]
    rcases getElem_toThreadPhase found with ⟨rfl, _⟩ | ⟨_, before⟩
    · exact newest
    · exact sound.newest other moved before opened
  · intro other moved found isServing
    rw [threads] at found
    rcases getElem_toThreadPhase found with ⟨rfl, entered⟩ | ⟨elsewhere, before⟩
    · exact serves (entered ▸ isServing)
    · have also := sound.newest other moved before (by rw [isServing]; rfl)
      exact absurd (Nat.succ.inj (also.trans newest.symm)) elsewhere

theorem Sound.beginThread (thread : ThreadId) (start : ServeStart) :
    Sound gatewayFingerprint (state.beginThread thread start) := by
  unfold GatewayRuntime.beginThread
  split
  · next found =>
      obtain ⟨owner, atThread, created⟩ := threadPhase_eq_some found
      have isOpen : owner.phase.isOpen = true := by
        rw [created]
        rfl
      have elsewhere : owner.phase ≠ .serving := by
        rw [created]
        exact nofun
      have newest := sound.newest thread owner atThread isOpen
      have unrelied := sound.not_runs_of_open atThread isOpen elsewhere
      have fails : ∀ next : GatewayRuntime Config, SameClients state next →
          next.threads = (state.toThreadPhase thread .ending).threads →
          next.startupError = true → Sound gatewayFingerprint next := by
        intro next same threads error
        refine sound.moveThread atThread isOpen .ending same threads nofun ?_ ?_
        · exact fun _ _ _ runs => absurd runs unrelied
        · exact fun _ _ _ _ => Starting.ofError atThread newest .ending nofun threads error
      simp only
      split
      · refine sound.moveThread atThread isOpen .serving ⟨rfl, rfl, rfl, rfl, rfl⟩ rfl
          (fun _ => ⟨rfl, rfl⟩) ?_ ?_
        · exact fun _ _ _ runs => absurd runs unrelied
        · intro _ _ _ starting
          have last := getLast_of_newest atThread newest
          cases starting with
          | created isLast phase stays notReady =>
            rw [last, some_inj] at isLast
            exact Starting.serving (getLast_toThreadPhase atThread newest .serving) rfl
              (isLast ▸ stays)
          | serving isLast phase stays =>
            rw [last, some_inj] at isLast
            exact absurd (isLast ▸ phase) elsewhere
          | failed begun error => exact absurd created (begun owner last)
      · exact fails _ ⟨rfl, rfl, rfl, rfl, rfl⟩ rfl rfl
      · exact fails _ ⟨rfl, rfl, rfl, rfl, rfl⟩ rfl rfl
  · exact sound

theorem Sound.leaveServe {raises : Bool} (quiet : state.Quiet (.leaveServe thread raises)) :
    Sound gatewayFingerprint (state.leaveServe thread raises) := by
  unfold GatewayRuntime.leaveServe
  split
  · next owner atThread =>
      split
      · next isServing =>
          have isOpen : owner.phase.isOpen = true := by
            rw [isServing]
            rfl
          have newest := sound.newest thread owner atThread isOpen
          simp only
          split
          · next raised =>
              subst raised
              have served : state.threadPhase thread = some .serving := by
                unfold threadPhase
                rw [atThread, map_some, isServing]
              refine sound.moveThread atThread isOpen .ending
                ⟨rfl, rfl, rfl, rfl, rfl⟩ rfl nofun ?_ ?_
              · exact fun client member relies => absurd relies (quiet served client member)
              · exact fun _ _ _ _ => Starting.ofError atThread newest .ending nofun rfl rfl
          · split
            · next exits =>
                refine sound.moveThread atThread isOpen .ending
                  ⟨rfl, rfl, rfl, rfl, rfl⟩ rfl nofun ?_ ?_
                · rintro _ _ _ ⟨running, atLoop, _, stays⟩
                  rw [(sound.serving thread owner atThread isServing).1, bind_some,
                    atThread, some_inj] at atLoop
                  rw [← atLoop, exits] at stays
                  cases stays
                · intro _ _ _ starting
                  have begun : owner.phase ≠ .created := by
                    rw [isServing]
                    exact nofun
                  exact Starting.ofError atThread newest .ending nofun rfl
                    (starting.error (getLast_of_newest atThread newest) begun (fun _ => exits))
            · exact sound
      · exact sound
  · exact sound

theorem Sound.closeLoop (thread : ThreadId) :
    Sound gatewayFingerprint (state.closeLoop thread) := by
  unfold GatewayRuntime.closeLoop
  split
  · next found =>
      obtain ⟨owner, atThread, ending⟩ := threadPhase_eq_some found
      have isOpen : owner.phase.isOpen = true := by
        rw [ending]
        rfl
      have elsewhere : owner.phase ≠ .serving := by
        rw [ending]
        exact nofun
      have begun : owner.phase ≠ .created := by
        rw [ending]
        exact nofun
      have newest := sound.newest thread owner atThread isOpen
      refine sound.moveThread atThread isOpen .closed ⟨rfl, rfl, rfl, rfl, rfl⟩ rfl nofun ?_ ?_
      · exact fun _ _ _ runs =>
          absurd runs (sound.not_runs_of_open atThread isOpen elsewhere)
      · exact fun _ _ _ starting => Starting.ofError atThread newest .closed nofun rfl
          (starting.error (getLast_of_newest atThread newest) begun
            (fun serves => absurd serves elsewhere))
  · exact sound

theorem Sound.die (thread : ThreadId) : Sound gatewayFingerprint (state.die thread) := by
  unfold GatewayRuntime.die
  split
  · next found =>
      obtain ⟨owner, atThread, closed⟩ := threadPhase_eq_some found
      have kept : ∀ (other : ThreadId) (moved : OwnerThread), moved.phase ≠ .closed →
          state.threads[other]? = some moved →
          (state.toThreadPhase thread .dead).threads[other]? = some moved := by
        intro other moved elsewhere before
        change (state.threads.modify thread _)[other]? = _
        rw [getElem?_modify_ne _ _ ?_]
        · exact before
        · rintro rfl
          rw [atThread, some_inj] at before
          exact elsewhere (before ▸ closed)
      have keptLast : ∀ moved : OwnerThread, moved.phase ≠ .closed →
          state.threads.getLast? = some moved →
          (state.toThreadPhase thread .dead).threads.getLast? = some moved := by
        intro moved elsewhere last
        rw [getLast?_eq_getElem?] at last
        rw [getLast?_eq_getElem?, length_toThreadPhase]
        exact kept _ moved elsewhere last
      refine sound.ofThreads ⟨rfl, rfl, rfl, rfl, rfl⟩ ?_ ?_ ?_ ?_
      · intro other moved atOther isOpen
        rw [length_toThreadPhase]
        rcases getElem_toThreadPhase atOther with ⟨_, dead⟩ | ⟨_, before⟩
        · rw [dead] at isOpen
          cases isOpen
        · exact sound.newest other moved before isOpen
      · intro other moved atOther serves
        rcases getElem_toThreadPhase atOther with ⟨_, dead⟩ | ⟨_, before⟩
        · rw [dead] at serves
          cases serves
        · exact sound.serving other moved before serves
      · rintro _ _ _ ⟨running, atLoop, serves, stays⟩
        obtain ⟨looped, isLoop, atLooped⟩ := bind_eq_some_iff.mp atLoop
        refine ⟨running, bind_eq_some_iff.mpr ⟨looped, isLoop, ?_⟩, serves, stays⟩
        exact kept looped running (by rw [serves]; exact nofun) atLooped
      · intro _ _ _ starting
        cases starting with
        | created last phase stays notReady =>
          exact Starting.created (keptLast _ (by rw [phase]; exact nofun) last) phase stays notReady
        | serving last phase stays =>
          exact Starting.serving (keptLast _ (by rw [phase]; exact nofun) last) phase stays
        | failed begun error =>
          refine Starting.failed ?_ error
          intro moved last
          rw [getLast?_eq_getElem?, length_toThreadPhase] at last
          rcases getElem_toThreadPhase last with ⟨_, dead⟩ | ⟨_, before⟩
          · rw [dead]
            exact nofun
          · exact begun moved (getLast?_eq_getElem? ▸ before)
  · exact sound

end

theorem Starting.ofSame (starting : state.Starting) (threads : next.threads = state.threads)
    (ready : next.ready = state.ready) (startupError : next.startupError = state.startupError) :
    next.Starting := by
  cases starting with
  | created newest phase stays notReady =>
    exact Starting.created (threads ▸ newest) phase stays (ready ▸ notReady)
  | serving newest phase stays => exact Starting.serving (threads ▸ newest) phase stays
  | failed begun error => exact Starting.failed (threads ▸ begun) (startupError ▸ error)

theorem startOf_toPhase (number other : Nat) (phase : LeasePhase) :
    (state.toPhase number phase).startOf other = state.startOf other := by
  change ((state.clients.modify number _)[other]?).map Client.start = _
  rw [getElem?_modify, Option.map_eq_map, Option.map_map]
  congr 1
  funext client
  change Client.start (if number = other then _ else client) = client.start
  split <;> rfl

theorem startOf_toStart (number other : Nat) (start : StartCall) :
    (state.toStart number start).startOf other =
      (state.startOf other).map (fun before => if number = other then start else before) := by
  change ((state.clients.modify number _)[other]?).map Client.start = _
  unfold startOf
  rw [getElem?_modify, Option.map_eq_map, Option.map_map, Option.map_map]
  congr 1
  funext client
  change Client.start (if number = other then _ else client) =
    if number = other then start else client.start
  split <;> rfl

section

variable (sound : Sound gatewayFingerprint state)

include sound

theorem Sound.enter (after : LeasePhase) (found : state.phaseOf number = some before)
    (counts : after.isCounted = true → before.isCounted = true) (entered : after ≠ .acquiring)
    (relied : after = .held → state.LoopRuns) {refcount : Int}
    (stops : after.isStopping = true → refcount = 0)
    (others : ∀ client ∈ state.clients, client.phase.isStopping = true → refcount = 0) :
    Sound gatewayFingerprint { state.toPhase number after with refcount := refcount } := by
  obtain ⟨moving, atNumber, isBefore⟩ := phaseOf_eq_some found
  have isMember : moving ∈ state.clients := mem_of_getElem? atNumber
  have cases : ∀ client ∈ (state.toPhase number after).clients,
      client ∈ state.clients ∨ client = { moving with phase := after } := by
    intro client member
    rcases Lists.mem_modify member with old | ⟨same, atSame, changed⟩
    · exact .inl old
    · rw [atNumber, some_inj] at atSame
      exact .inr (atSame ▸ changed)
  refine { sound with stopping := ?_, config := ?_, lock := ?_, relied := ?_, waiting := ?_ }
  · intro client member stopping
    rcases cases client member with old | rfl
    · exact others client old stopping
    · exact stops stopping
  · intro client member counted
    rcases cases client member with old | rfl
    · exact sound.config client old counted
    · exact sound.config moving isMember (isBefore ▸ counts counted)
  · intro other waits
    exact sound.lock other ((startOf_toPhase number other after).symm.trans waits)
  · intro client member relies
    rcases cases client member with old | rfl
    · exact sound.relied client old relies
    · rcases relies with held | ⟨acquiring, _⟩
      · exact relied held
      · exact absurd acquiring entered
  · intro client member waits
    rcases cases client member with old | rfl
    · exact (sound.waiting client old waits).ofSame rfl rfl rfl
    · exact absurd waits.1 entered

theorem Sound.toPhase (after : LeasePhase) (found : state.phaseOf number = some before)
    (left : after.isCounted = false) (stops : after.isStopping = true → before.isStopping = true) :
    Sound gatewayFingerprint (state.toPhase number after) := by
  obtain ⟨moving, atNumber, isBefore⟩ := phaseOf_eq_some found
  refine sound.enter after found ?_ ?_ ?_ ?_ sound.stopping
  · intro counts
    rw [left] at counts
    cases counts
  · rintro rfl
    cases left
  · rintro rfl
    cases left
  · intro stopping
    exact sound.stopping moving (mem_of_getElem? atNumber) (isBefore ▸ stops stopping)

theorem Sound.countDown (counted : state.Counted) (after : LeasePhase)
    (found : state.phaseOf number = some before) (left : before.isCounted = true)
    (gone : after.isCounted = false) (stops : after.isStopping = true → state.refcount - 1 = 0) :
    Sound gatewayFingerprint (state.countDown number after) := by
  obtain ⟨moving, atNumber, isBefore⟩ := phaseOf_eq_some found
  have positive := counted.refcount_pos (mem_of_getElem? atNumber) (isBefore ▸ left)
  refine sound.enter after found ?_ ?_ ?_ stops ?_
  · exact fun _ => left
  · rintro rfl
    cases gone
  · rintro rfl
    cases gone
  · intro client member stopping
    have empty := sound.stopping client member stopping
    omega

theorem Sound.setConfig (counted : state.Counted) (empty : state.refcount = 0)
    (config : Option Config) (fingerprint : Option String) :
    Sound gatewayFingerprint { state with
      config := config
      configFingerprint := fingerprint } := by
  refine { sound with config := ?_, waiting := ?_ }
  · intro client member counts
    have positive := counted.refcount_pos member counts
    omega
  · exact fun client member waits => (sound.waiting client member waits).ofSame rfl rfl rfl

theorem Sound.toStart (startLock : Option Nat)
    (locks : ∀ other, (state.toStart number start).startOf other = some .waitingReady →
      startLock = some other)
    (relied : state.phaseOf number = some .acquiring → start = .returned → state.LoopRuns)
    (waiting : state.phaseOf number = some .acquiring → start = .waitingReady → state.Starting) :
    Sound gatewayFingerprint { state.toStart number start with startLock := startLock } := by
  have cases : ∀ client ∈ (state.toStart number start).clients, client ∈ state.clients ∨
      ∃ before ∈ state.clients, state.phaseOf number = some before.phase ∧
        client = { before with start := start } := by
    intro client member
    rcases Lists.mem_modify member with old | ⟨before, atBefore, changed⟩
    · exact .inl old
    · refine .inr ⟨before, mem_of_getElem? atBefore, ?_, changed⟩
      unfold phaseOf
      rw [atBefore, map_some]
  refine { sound with stopping := ?_, config := ?_, lock := ?_, relied := ?_, waiting := ?_ }
  · intro client member stopping
    rcases cases client member with old | ⟨before, present, _, rfl⟩
    · exact sound.stopping client old stopping
    · exact sound.stopping before present stopping
  · intro client member counted
    rcases cases client member with old | ⟨before, present, _, rfl⟩
    · exact sound.config client old counted
    · exact sound.config before present counted
  · exact locks
  · intro client member relies
    rcases cases client member with old | ⟨before, present, isPhase, rfl⟩
    · exact sound.relied client old relies
    · rcases relies with held | ⟨acquiring, returned⟩
      · exact sound.relied before present (.inl held)
      · exact relied (isPhase.trans (congrArg some acquiring)) returned
  · intro client member waits
    rcases cases client member with old | ⟨before, present, isPhase, rfl⟩
    · exact (sound.waiting client old waits).ofSame rfl rfl rfl
    · exact (waiting (isPhase.trans (congrArg some waits.1)) waits.2).ofSame rfl rfl rfl

theorem Sound.addClient {fingerprint : String}
    (quiet : ∀ client ∈ state.clients, client.phase.isStopping = false)
    (hasConfig : state.HasConfig gatewayFingerprint fingerprint)
    (same : state.configFingerprint = some fingerprint) :
    Sound gatewayFingerprint { state with
      refcount := state.refcount + 1
      clients := state.clients ++
        [{ fingerprint := fingerprint
           start := .waitingLock
           phase := .acquiring }] } := by
  refine { sound with stopping := ?_, config := ?_, lock := ?_, relied := ?_, waiting := ?_ }
  · intro client member stopping
    rcases mem_append.mp member with old | new
    · rw [quiet client old] at stopping
      cases stopping
    · rw [mem_singleton.mp new] at stopping
      cases stopping
  · intro client member counts
    rcases mem_append.mp member with old | new
    · exact sound.config client old counts
    · rw [mem_singleton.mp new]
      exact ⟨hasConfig, same⟩
  · intro number waits
    obtain ⟨client, atClient, isWaiting⟩ := startOf_eq_some waits
    rcases Lists.getElem?_snoc atClient with old | ⟨_, new⟩
    · refine sound.lock number ?_
      unfold startOf
      rw [old, map_some, isWaiting]
    · rw [new] at isWaiting
      cases isWaiting
  · intro client member relies
    rcases mem_append.mp member with old | new
    · exact sound.relied client old relies
    · rw [mem_singleton.mp new] at relies
      rcases relies with held | ⟨_, returned⟩
      · cases held
      · cases returned
  · intro client member waits
    rcases mem_append.mp member with old | new
    · exact (sound.waiting client old waits).ofSame rfl rfl rfl
    · rw [mem_singleton.mp new] at waits
      cases waits.2

theorem Sound.acquire (counted : state.Counted) {config : Config}
    (quiet : state.Quiet (.acquire config)) :
    Sound gatewayFingerprint (state.acquire gatewayFingerprint config) := by
  unfold GatewayRuntime.acquire
  split
  · exact sound
  · next compatible =>
      simp only
      split
      · next empty =>
          exact (sound.setConfig counted empty (some config) _).addClient quiet
            ⟨config, rfl, rfl⟩ rfl
      · next occupied =>
          have same : state.configFingerprint = some (gatewayFingerprint config) := by
            by_contra other
            exact compatible ⟨occupied, other⟩
          have some : 0 < state.occupied := by
            have exact : state.refcount = state.occupied := counted
            omega
          obtain ⟨client, member, counts⟩ := countP_pos_iff.mp some
          obtain ⟨hasConfig, own⟩ := sound.config client member counts
          rw [same, some_inj] at own
          exact sound.addClient quiet (own ▸ hasConfig) same

theorem Sound.newThread (unlocked : state.startLock = none)
    (none : ∀ owner ∈ state.threads, owner.phase.isOpen = false) (phase : ThreadPhase)
    (fresh : phase ≠ .serving) : Sound gatewayFingerprint (state.newThread phase) := by
  have idle : ¬ state.LoopRuns := by
    rintro ⟨owner, atLoop, serves, _⟩
    obtain ⟨thread, _, atThread⟩ := bind_eq_some_iff.mp atLoop
    have closed := none owner (mem_of_getElem? atThread)
    rw [serves] at closed
    cases closed
  refine sound.ofThreads ⟨rfl, rfl, rfl, rfl, rfl⟩ ?_ ?_ ?_ ?_
  · intro thread owner atThread isOpen
    rcases Lists.getElem?_snoc atThread with old | ⟨last, _⟩
    · rw [none owner (mem_of_getElem? old)] at isOpen
      cases isOpen
    · change thread + 1 = (state.threads ++ [_]).length
      rw [length_append, length_singleton, last]
  · intro thread owner atThread serves
    rcases Lists.getElem?_snoc atThread with old | ⟨_, new⟩
    · have closed := none owner (mem_of_getElem? old)
      rw [serves] at closed
      cases closed
    · rw [new] at serves
      exact absurd serves fresh
  · exact fun _ _ _ runs => absurd runs idle
  · intro client member waits
    obtain ⟨number, atClient⟩ := mem_iff_getElem?.mp member
    have held := sound.lock number (by unfold startOf; rw [atClient, map_some, waits.2])
    rw [unlocked] at held
    cases held

theorem Sound.none_waits (unlocked : state.startLock = none) {other : Nat}
    (waits : (state.toStart number start).startOf other = some .waitingReady) :
    number = other ∧ start = .waitingReady := by
  rw [startOf_toStart] at waits
  obtain ⟨before, found, isWaiting⟩ := map_eq_some_iff.mp waits
  split at isWaiting
  · next same => exact ⟨same, isWaiting⟩
  · rw [isWaiting] at found
    have held := sound.lock other found
    rw [unlocked] at held
    cases held

theorem Sound.startBlocking {spawned : Bool} (quiet : state.Quiet (.startBlocking number spawned)) :
    Sound gatewayFingerprint (state.startBlocking number spawned) := by
  unfold GatewayRuntime.startBlocking
  split
  · next free =>
      have judged := quiet free.1 free.2
      split
      · next running =>
          rw [if_pos running] at judged
          refine sound.toStart state.startLock ?_ (fun phase _ => judged phase) nofun
          intro other waits
          cases (sound.none_waits free.1 waits).2
      · next stopped =>
          rw [if_neg stopped] at judged
          split
          · have next := sound.newThread free.1 judged .created nofun
            refine next.toStart (some number) ?_ nofun ?_
            · intro other waits
              rw [(next.none_waits free.1 waits).1]
            · intro _ _
              exact Starting.created getLast?_concat rfl rfl rfl
          · have next := sound.newThread free.1 judged .unstarted nofun
            refine next.toStart state.startLock ?_ nofun nofun
            intro other waits
            cases (next.none_waits free.1 waits).2
  · exact sound

theorem Sound.leaveLock (found : state.startOf number = some .waitingReady)
    (isOver : start ≠ .waitingReady)
    (relied : state.phaseOf number = some .acquiring → start = .returned → state.LoopRuns) :
    Sound gatewayFingerprint { state.toStart number start with startLock := none } := by
  refine sound.toStart none ?_ relied (fun _ waits => absurd waits isOver)
  intro other waits
  rw [startOf_toStart] at waits
  obtain ⟨before, atOther, isWaiting⟩ := map_eq_some_iff.mp waits
  split at isWaiting
  · exact absurd isWaiting isOver
  · next different =>
      rw [isWaiting] at atOther
      have same := (sound.lock number found).symm.trans (sound.lock other atOther)
      exact absurd (some_inj.mp same) different

theorem Sound.finishStart (number : Nat) (timedOut : Bool) :
    Sound gatewayFingerprint (state.finishStart number timedOut) := by
  unfold GatewayRuntime.finishStart
  split
  · next found =>
      split
      · exact sound.leaveLock found nofun nofun
      · split
        · next ready =>
            refine sound.leaveLock found ?_ ?_
            · split <;> exact nofun
            · intro acquiring returned
              split at returned
              · cases returned
              · next noError =>
                  obtain ⟨client, atClient, isWaiting⟩ := startOf_eq_some found
                  unfold phaseOf at acquiring
                  rw [atClient, map_some, some_inj] at acquiring
                  have starting := sound.waiting client (mem_of_getElem? atClient)
                    ⟨acquiring, isWaiting⟩
                  cases starting with
                  | created newest phase stays notReady =>
                    rw [notReady] at ready
                    cases ready
                  | serving newest phase stays =>
                    rw [getLast?_eq_getElem?] at newest
                    have looped := (sound.serving _ _ newest phase).1
                    exact ⟨_, bind_eq_some_iff.mpr ⟨_, looped, newest⟩, phase, stays⟩
                  | failed begun error => exact absurd error noError
        · exact sound
  · exact sound

theorem Sound.giveUp (counted : state.Counted) (found : state.phaseOf number = some .acquiring) :
    Sound gatewayFingerprint (state.giveUp number) := by
  have down := sound.countDown counted .failed found rfl rfl nofun
  have count := counted.countDown .failed found rfl rfl
  unfold GatewayRuntime.giveUp
  simp only
  split
  · next empty => exact down.setConfig count empty none none
  · exact down

theorem Sound.resumeAcquire (counted : state.Counted) (number : Nat) :
    Sound gatewayFingerprint (state.resumeAcquire number) := by
  unfold GatewayRuntime.resumeAcquire
  split
  · next found =>
      split
      · next returned =>
          refine sound.enter .held found (fun _ => rfl) nofun ?_ nofun sound.stopping
          intro _
          obtain ⟨client, atClient, isReturned⟩ := startOf_eq_some returned
          unfold phaseOf at found
          rw [atClient, map_some, some_inj] at found
          exact sound.relied client (mem_of_getElem? atClient) (.inr ⟨found, isReturned⟩)
      · exact sound.giveUp counted found
      · exact sound
  · exact sound

theorem Sound.cancelAcquire (counted : state.Counted) (number : Nat) :
    Sound gatewayFingerprint (state.cancelAcquire number) := by
  unfold GatewayRuntime.cancelAcquire
  split
  · next found => exact sound.giveUp counted found
  · exact sound

theorem Sound.release (number : Nat) : Sound gatewayFingerprint (state.release number) := by
  unfold GatewayRuntime.release
  split
  · next found =>
      exact sound.enter .releasing found (fun _ => rfl) nofun nofun nofun sound.stopping
  · exact sound

theorem Sound.releaseLease (counted : state.Counted) (number : Nat) (reached : Bool) :
    Sound gatewayFingerprint (state.releaseLease number reached) := by
  unfold GatewayRuntime.releaseLease
  split
  · next found =>
      split
      · exact sound.toPhase _ found rfl nofun
      · simp only
        split
        · next last =>
            split
            · exact sound.countDown counted _ found rfl rfl (fun _ => last)
            · exact sound.countDown counted .released found rfl rfl nofun
        · exact sound.countDown counted .released found rfl rfl nofun
  · exact sound

theorem Sound.exitServer (counted : state.Counted) (empty : state.refcount = 0) :
    Sound gatewayFingerprint state.exitServer := by
  have unrelied := Sound.unrelied counted empty
  unfold GatewayRuntime.exitServer
  split
  · next server _ =>
      have kept : ∀ (thread : ThreadId) (owner : OwnerThread),
          (state.threads.modify server
            (fun owner => { owner with shouldExit := true }))[thread]? = some owner →
          ∃ before, state.threads[thread]? = some before ∧ before.phase = owner.phase := by
        intro thread owner found
        rw [getElem?_modify] at found
        obtain ⟨before, atThread, changed⟩ := map_eq_some_iff.mp found
        refine ⟨before, atThread, ?_⟩
        split at changed
        · rw [← changed]
        · rw [changed]
      refine sound.ofThreads ⟨rfl, rfl, rfl, rfl, rfl⟩ ?_ ?_ ?_ ?_
      · intro thread owner atThread isOpen
        obtain ⟨before, present, same⟩ := kept thread owner atThread
        change thread + 1 = (state.threads.modify server _).length
        rw [length_modify]
        exact sound.newest thread before present (same ▸ isOpen)
      · intro thread owner atThread serves
        obtain ⟨before, present, same⟩ := kept thread owner atThread
        exact sound.serving thread before present (same.trans serves)
      · exact fun client member relies => absurd relies (unrelied client member).1
      · exact fun client member waits => absurd waits (unrelied client member).2
  · exact sound

theorem Sound.empty {phase : LeasePhase} (found : state.phaseOf number = some phase)
    (stops : phase.isStopping = true) :
    state.refcount = 0 := by
  obtain ⟨client, atClient, isPhase⟩ := phaseOf_eq_some found
  exact sound.stopping client (mem_of_getElem? atClient) (isPhase ▸ stops)

theorem Sound.finishShutdown (counted : state.Counted) (number : Nat) :
    Sound gatewayFingerprint (state.finishShutdown number) := by
  unfold GatewayRuntime.finishShutdown
  split
  · next found =>
      split
      · exact (sound.exitServer counted (sound.empty found rfl)).toPhase _
          ((state.phaseOf_exitServer number).trans found) rfl (fun _ => rfl)
      · exact sound
  · next found =>
      split
      · exact (sound.exitServer counted (sound.empty found rfl)).toPhase _
          ((state.phaseOf_exitServer number).trans found) rfl (fun _ => rfl)
      · exact sound
  · exact sound

theorem Sound.cancelShutdown (number : Nat) :
    Sound gatewayFingerprint (state.cancelShutdown number) := by
  unfold GatewayRuntime.cancelShutdown
  split
  · next found => exact sound.toPhase _ found rfl (fun _ => rfl)
  · exact sound

theorem Sound.dropShutdown (number : Nat) :
    Sound gatewayFingerprint (state.dropShutdown number) := by
  unfold GatewayRuntime.dropShutdown
  split
  · next found => exact sound.toPhase _ found rfl nofun
  · next found => exact sound.toPhase _ found rfl nofun
  · exact sound

theorem Sound.awaitStop (number : Nat) (timedOut : Bool) :
    Sound gatewayFingerprint (state.awaitStop number timedOut) := by
  unfold GatewayRuntime.awaitStop
  split
  · next found =>
      split
      · exact sound.toPhase _ found rfl nofun
      · split
        · split <;> exact sound.toPhase _ found rfl (fun _ => rfl)
        · exact sound
  · exact sound

theorem Sound.joinThread (number : Nat) (timedOut : Bool) :
    Sound gatewayFingerprint (state.joinThread number timedOut) := by
  unfold GatewayRuntime.joinThread
  split
  · next found =>
      split
      · exact sound.toPhase _ found rfl nofun
      · split
        · have joined := sound.toPhase .clearing found rfl (fun _ => rfl)
          exact joined.ofThreads ⟨rfl, rfl, rfl, rfl, rfl⟩ joined.newest joined.serving
            (fun _ _ _ runs => runs) (fun _ _ _ starting => starting.ofSame rfl rfl rfl)
        · exact sound
  · exact sound

theorem Sound.clearConfig (counted : state.Counted) (number : Nat) :
    Sound gatewayFingerprint (state.clearConfig number) := by
  unfold GatewayRuntime.clearConfig
  split
  · next found =>
      have cleared := sound.toPhase .released found rfl nofun
      exact cleared.setConfig (counted.toPhase _ found rfl) (sound.empty found rfl) none none
  · exact sound

theorem Sound.step (counted : state.Counted) {event : Event Config} (quiet : state.Quiet event) :
    Sound gatewayFingerprint (state.step gatewayFingerprint event) := by
  cases event with
  | acquire config => exact sound.acquire counted quiet
  | startBlocking number spawned => exact sound.startBlocking quiet
  | finishStart number timedOut => exact sound.finishStart number timedOut
  | resumeAcquire number => exact sound.resumeAcquire counted number
  | cancelAcquire number => exact sound.cancelAcquire counted number
  | release number => exact sound.release number
  | releaseLease number reached => exact sound.releaseLease counted number reached
  | finishShutdown number => exact sound.finishShutdown counted number
  | cancelShutdown number => exact sound.cancelShutdown number
  | dropShutdown number => exact sound.dropShutdown number
  | awaitStop number timedOut => exact sound.awaitStop number timedOut
  | joinThread number timedOut => exact sound.joinThread number timedOut
  | clearConfig number => exact sound.clearConfig counted number
  | beginThread thread start => exact sound.beginThread thread start
  | leaveServe thread raises => exact sound.leaveServe quiet
  | closeLoop thread => exact sound.closeLoop thread
  | die thread => exact sound.die thread

end

/-- The count is right in every run; the leases have their gateway in every run whose
steps meet the condition. -/
theorem leases_served (gatewayFingerprint : Config → String) (events : List (Event Config)) :
    (∀ past, past <+: events → (Runs.run (step gatewayFingerprint) initial past).Counted) ∧
    (Runs.Admits (step gatewayFingerprint) Quiet initial events → ∀ past, past <+: events →
      Served gatewayFingerprint (Runs.run (step gatewayFingerprint) initial past)) := by
  constructor
  · intro past _
    exact Runs.run_preserves (fun _ event counted => counted.step gatewayFingerprint event)
      Counted.initial past
  · intro admitted past early
    have kept : ∀ (state : GatewayRuntime Config) (event : Event Config),
        state.Counted ∧ Sound gatewayFingerprint state → state.Quiet event →
        (state.step gatewayFingerprint event).Counted ∧
          Sound gatewayFingerprint (state.step gatewayFingerprint event) :=
      fun _ event both quiet =>
        ⟨both.1.step gatewayFingerprint event, both.2.step both.1 quiet⟩
    have both := Runs.prefix_invariant kept ⟨Counted.initial, Sound.initial⟩ admitted early
    exact both.2.served both.1

/-- Two leases one after the other, with the thread stopped in between. -/
def leaseAfterStop : List (Event String) :=
  [.acquire "first", .startBlocking 0 true, .beginThread 0 .listens, .finishStart 0 false,
    .resumeAcquire 0, .release 0, .releaseLease 0 true, .finishShutdown 0, .leaveServe 0 false,
    .closeLoop 0, .die 0, .awaitStop 0 false, .joinThread 0 false, .clearConfig 0,
    .acquire "second", .startBlocking 1 true, .beginThread 1 .listens, .finishStart 1 false,
    .resumeAcquire 1]

theorem leaseAfterStop_served : Served id (Runs.run (step id) initial leaseAfterStop) :=
  (leases_served id leaseAfterStop).2 (by decide) leaseAfterStop (prefix_refl _)

def leaseWhileStopping : List (Event String) :=
  [.acquire "config", .startBlocking 0 true, .beginThread 0 .listens, .finishStart 0 false,
    .resumeAcquire 0, .release 0, .releaseLease 0 true, .finishShutdown 0, .acquire "config",
    .startBlocking 1 true, .resumeAcquire 1, .leaveServe 0 false, .closeLoop 0, .die 0,
    .awaitStop 0 false, .joinThread 0 false, .clearConfig 0]

def leaseAfterFailure : List (Event String) :=
  [.acquire "config", .startBlocking 0 true, .beginThread 0 .bindFails, .finishStart 0 false,
    .resumeAcquire 0, .acquire "config", .startBlocking 1 true, .resumeAcquire 1]

/-- The second lease is held without loop and configuration in the first run, and without
a server in the second one. -/
theorem lease_without_gateway :
    ¬ (∀ events : List (Event String), (Runs.run (step id) initial events).Counted ∧
      Served id (Runs.run (step id) initial events)) ∧
    ((Runs.run (step id) initial leaseWhileStopping).phaseOf 1 = some .held ∧
      (Runs.run (step id) initial leaseWhileStopping).loop = none ∧
      (Runs.run (step id) initial leaseWhileStopping).config = none) ∧
    ((Runs.run (step id) initial leaseAfterFailure).phaseOf 1 = some .held ∧
      ¬ (Runs.run (step id) initial leaseAfterFailure).LoopRuns) := by
  have stopping : (Runs.run (step id) initial leaseWhileStopping).phaseOf 1 = some .held ∧
      (Runs.run (step id) initial leaseWhileStopping).loop = none ∧
      (Runs.run (step id) initial leaseWhileStopping).config = none := by
    decide
  refine ⟨fun all => ?_, stopping, by decide⟩
  obtain ⟨client, atClient, held⟩ := phaseOf_eq_some stopping.1
  obtain ⟨config, present, _⟩ :=
    (all leaseWhileStopping).2.config client (mem_of_getElem? atClient) held
  rw [stopping.2.2] at present
  cases present

end GatewayRuntime

end Dressage.Harbor

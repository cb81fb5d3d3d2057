/-
Pause as a barrier.

While the gate stays closed no request registers; once every remembered request is quiesced the
active table is empty, and it stays so until a resume opens the gate. A resume may do so while
the pause still waits: the pause then returns quiesced before an open gate.
-/

import Dressage.Proxy.GenerationController

namespace Dressage.GenerationController

open Lib Generation List OrderedDict Controller

def Controller.run (controller : Controller) (actions : List Action) : Controller :=
  Runs.run step controller actions

/-- Whether the step runs the end of `resume`, which opens the gate. -/
def Controller.resumes (controller : Controller) : Action → Bool
  | .resumeBegin _ => controller.lockFree && !controller.shuttingDown && !controller.paused
  | .resumeEnd ready => controller.lockHolder.isSome && ready
  | _ => false

def Controller.quiesced (controller : Controller) (snapshot : List Nat) : Bool :=
  snapshot.all (fun requestId =>
    match controller.requests.get? requestId with
    | none => false
    | some record => record.quiescedEvent)

def Call.requestTokens (call : Call) : List Nat := call.request.inputIds ++ call.progress.outputIds

def Controller.delivered (controller : Controller) (callId : Nat) : Action → List Nat
  | .respond target response =>
    match controller.calls.get? target with
    | none => []
    | some call =>
      match call.pc with
      | .generating _ =>
        if target = callId ∧ versionError call.request response = none then
          response.outputIds
        else []
      | _ => []
  | _ => []

def Controller.received (controller : Controller) (callId : Nat) : List Action → List Nat
  | [] => []
  | action :: rest =>
    controller.delivered callId action ++ (controller.step action).received callId rest

/-- An active request is not quiesced, and a call that holds one is its owner. -/
structure Registered (controller : Controller) : Prop where
  listed : ∀ requestId ∈ controller.active, ∃ record,
    controller.requests.get? requestId = some record ∧ record.quiescedEvent = false
  holder : ∀ callId call requestId, controller.calls.get? callId = some call →
    call.pc.holds = some requestId → requestId ∈ controller.active ∧ ∃ record,
      controller.requests.get? requestId = some record ∧ record.owner = callId
  issued : ∀ requestId record, controller.requests.get? requestId = some record →
    requestId < controller.nextRequestId
  entered : ∀ callId call, controller.calls.get? callId = some call → callId < controller.nextCallId

variable {controller : Controller}

theorem initial_registered (partialRollout : Bool) :
    Registered (initial partialRollout) := by
  constructor <;> simp [initial]

theorem Registered.congr {other : Controller} (registered : Registered controller)
    (active : other.active = controller.active) (requests : other.requests = controller.requests)
    (nextRequestId : other.nextRequestId = controller.nextRequestId)
    (calls : other.calls = controller.calls)
    (nextCallId : other.nextCallId = controller.nextCallId) : Registered other := by
  constructor
  · rw [active, requests]
    exact registered.listed
  · rw [active, requests, calls]
    exact registered.holder
  · rw [requests, nextRequestId]
    exact registered.issued
  · rw [calls, nextCallId]
    exact registered.entered

variable {callId requestId : Nat} {after call : Call} {other : Controller}

section

variable (registered : Registered controller)

include registered

theorem Registered.setCall {before : Call} (found : controller.calls.get? callId = some before)
    (holds : ∀ requestId, after.pc.holds = some requestId →
      before.pc.holds = some requestId) : Registered (controller.setCall callId after) := by
  refine { registered with
    holder := ?_
    entered := ?_ }
  · intro other call requestId at_ held
    rw [Controller.setCall, get?_set] at at_
    split at at_
    · rename_i same
      cases at_
      rw [same]
      exact registered.holder callId before requestId found (holds requestId held)
    · exact registered.holder other call requestId at_ held
  · intro other call at_
    rw [Controller.setCall, get?_set] at at_
    split at at_
    · rename_i same
      rw [same]
      exact registered.entered callId before found
    · exact registered.entered other call at_

theorem Registered.modifyRequest (requestId : Nat) {change : ActiveGeneration → ActiveGeneration}
    (event : ∀ record, (change record).quiescedEvent = record.quiescedEvent)
    (owner : ∀ record, (change record).owner = record.owner) :
    Registered (controller.modifyRequest requestId change) := by
  unfold Controller.modifyRequest
  split
  · exact registered
  · rename_i record found
    have changed : ∀ other old, controller.requests.get? other = some old → ∃ new,
        (controller.requests.set requestId (change record)).get? other = some new ∧
          new.quiescedEvent = old.quiescedEvent ∧ new.owner = old.owner := by
      intro other old at_
      rw [get?_set]
      split
      · rename_i same
        rw [same, found] at at_
        cases at_
        exact ⟨_, rfl, event record, owner record⟩
      · exact ⟨old, at_, rfl, rfl⟩
    refine { registered with
      listed := ?_
      holder := ?_
      issued := ?_ }
    · intro other member
      obtain ⟨old, at_, unset⟩ := registered.listed other member
      obtain ⟨new, newAt, sameEvent, _⟩ := changed other old at_
      exact ⟨new, newAt, sameEvent.trans unset⟩
    · intro callId call other at_ held
      obtain ⟨member, old, oldAt, owned⟩ := registered.holder callId call other at_ held
      obtain ⟨new, newAt, _, sameOwner⟩ := changed other old oldAt
      exact ⟨member, new, newAt, sameOwner.trans owned⟩
    · intro other new at_
      rw [get?_set] at at_
      split at at_
      · rename_i same
        rw [same]
        exact registered.issued requestId record found
      · exact registered.issued other new at_

theorem Registered.markPreempting (ids : List Nat) :
    Registered (controller.modifyAll ids markPreempting) := by
  unfold modifyAll
  induction ids generalizing controller with
  | nil => exact registered
  | cons requestId rest ih =>
    exact ih (registered.modifyRequest requestId (fun _ => rfl) (fun _ => rfl))

theorem enter_registered (request : Request) : Registered (controller.enter request) := by
  unfold enter
  refine { registered with
    holder := ?_
    entered := ?_ }
  · intro callId call requestId at_ held
    rw [get?_set] at at_
    split at at_
    · cases at_
      dsimp only at held
      split at held <;> cases held
    · exact registered.holder callId call requestId at_ held
  · intro callId call at_
    rw [get?_set] at at_
    split at at_
    · rename_i same
      show callId < controller.nextCallId + 1
      omega
    · exact Nat.lt_succ_of_lt (registered.entered callId call at_)

theorem register_registered (found : controller.calls.get? callId = some call) :
    Registered (controller.register callId call) := by
  unfold register
  split
  · apply registered.setCall found
    intro requestId held
    cases held
  split
  · apply registered.setCall found
    intro requestId held
    cases held
  · have fresh : ∀ requestId record, controller.requests.get? requestId = some record →
        requestId ≠ controller.nextRequestId := by
      intro requestId record at_
      have below := registered.issued requestId record at_
      omega
    constructor
    · intro requestId member
      rcases mem_append.mp member with old | new
      · obtain ⟨record, at_, unset⟩ := registered.listed requestId old
        dsimp only
        rw [get?_set_of_ne _ _ (fresh requestId record at_)]
        exact ⟨record, at_, unset⟩
      · rw [mem_singleton] at new
        subst new
        exact ⟨_, get?_set_self _ _ _, rfl⟩
    · intro other otherCall requestId at_ held
      dsimp only at at_ ⊢
      rw [get?_set] at at_
      split at at_
      · rename_i same
        cases at_
        cases held
        exact ⟨mem_append_right _ (mem_singleton_self _), _, get?_set_self _ _ _, same.symm⟩
      · obtain ⟨member, record, recordAt, owner⟩ :=
          registered.holder other otherCall requestId at_ held
        rw [get?_set_of_ne _ _ (fresh requestId record recordAt)]
        exact ⟨mem_append_left _ member, record, recordAt, owner⟩
    · intro requestId record at_
      dsimp only at at_ ⊢
      rw [get?_set] at at_
      split at at_
      · omega
      · exact Nat.lt_succ_of_lt (registered.issued requestId record at_)
    · intro other otherCall at_
      dsimp only at at_ ⊢
      rw [get?_set] at at_
      split at at_
      · rename_i same
        rw [same]
        exact registered.entered callId call found
      · exact registered.entered other otherCall at_

theorem remove_registered {before : Call} {exit : Exit}
    (found : controller.calls.get? callId = some before) (held : before.pc.holds = some requestId)
    (freed : after.pc.holds = none) :
    Registered ((controller.remove requestId exit).setCall callId after) := by
  obtain ⟨member, record, recordAt, owner⟩ := registered.holder callId before requestId found held
  have removed : controller.remove requestId exit =
      { controller with
        requests := controller.requests.set requestId (quiesce exit record)
        active := controller.active.filter (fun other => other ≠ requestId) } := by
    unfold remove modifyRequest
    rw [recordAt]
  rw [removed]
  constructor
  · intro other active
    obtain ⟨inActive, different⟩ := mem_filter.mp active
    rw [decide_eq_true_eq] at different
    dsimp only [setCall]
    rw [get?_set_of_ne _ _ different]
    exact registered.listed other inActive
  · intro other call otherId at_ holds
    dsimp only [setCall] at at_ ⊢
    rw [get?_set] at at_
    split at at_
    · cases at_
      rw [freed] at holds
      cases holds
    · rename_i differentCall
      obtain ⟨inActive, old, oldAt, owned⟩ := registered.holder other call otherId at_ holds
      have different : otherId ≠ requestId := by
        intro same
        rw [same, recordAt] at oldAt
        cases oldAt
        exact differentCall (owned.symm.trans owner)
      rw [get?_set_of_ne _ _ different]
      exact ⟨mem_filter.mpr ⟨inActive, decide_eq_true different⟩, old, oldAt, owned⟩
  · intro other new at_
    dsimp only [setCall] at at_ ⊢
    rw [get?_set] at at_
    split at at_
    · rename_i same
      rw [same]
      exact registered.issued requestId record recordAt
    · exact registered.issued other new at_
  · intro other call at_
    dsimp only [setCall] at at_ ⊢
    rw [get?_set] at at_
    split at at_
    · rename_i same
      rw [same]
      exact registered.entered callId before found
    · exact registered.entered other call at_

theorem leave_registered {callId : Nat} {call : Call} {requestId : Nat} {exit : Exit}
    (found : controller.calls.get? callId = some call) (leaving : call.pc = .leaving requestId exit) :
    Registered (controller.leave callId call requestId exit) := by
  have held : call.pc.holds = some requestId := by
    rw [leaving]
    rfl
  unfold leave
  cases exit with
  | raises error => exact remove_registered registered found held rfl
  | chunk preempted =>
    dsimp only
    split
    · exact remove_registered registered found held rfl
    · exact remove_registered registered found held rfl
    · rename_i progress _
      have removed : Registered ((controller.remove requestId (.chunk preempted)).setCall callId
        { call with
          progress := progress
          pc := .suspended }) := remove_registered registered found held rfl
      exact removed.congr rfl rfl rfl rfl rfl

theorem stitch_registered (response : SGLangResponse) (forced : Bool)
    (found : controller.calls.get? callId = some call)
    (generating : call.pc = .generating requestId) :
    Registered (controller.stitch callId call requestId response forced) := by
  have held : ∀ other, some requestId = some other → call.pc.holds = some other := by
    intro other same
    rw [generating, ← same]
    rfl
  unfold stitch
  split
  · exact registered.setCall found held
  · have stitched : Registered (controller.setCall callId
        { call with
          progress := absorb call.request response (forced || isPreempted response) call.progress
          pc := .leaving requestId (.chunk (forced || isPreempted response)) }) :=
      registered.setCall found held
    exact stitched.congr rfl rfl rfl rfl rfl

theorem engineRaises_registered (message : String)
    (found : controller.calls.get? callId = some call)
    (generating : call.pc = .generating requestId) :
    Registered (controller.engineRaises callId call requestId message) := by
  have held : ∀ other, some requestId = some other → call.pc.holds = some other := by
    intro other same
    rw [generating, ← same]
    rfl
  unfold engineRaises
  split
  · exact registered.setCall found held
  split
  · exact stitch_registered registered _ _ found generating
  · exact registered.setCall found held

theorem step_registered (action : Action) : Registered (controller.step action) := by
  have none_held : ∀ {pc : Pc} {call : Call}, pc.holds = none →
      ∀ requestId, pc.holds = some requestId → call.pc.holds = some requestId := by
    intro pc call free requestId held
    rw [free] at held
    cases held
  have effect := step_effect controller action
  generalize controller.step action = after at effect ⊢
  cases effect with
  | idle => exact registered
  | enters request => exact enter_registered registered request
  | proceeds callId call found _ =>
    unfold proceed
    split
    · split <;> exact registered.setCall found (none_held rfl)
    · exact registered
  | registers callId call found _ => exact register_registered registered found
  | responds callId call requestId response found generating =>
    exact stitch_registered registered response _ found generating
  | fails callId call requestId message found generating =>
    exact engineRaises_registered registered message found generating
  | leaves callId call requestId exit found leaving =>
    exact leave_registered registered found leaving
  | wakes callId call found _ =>
    have woken : ∀ after : Call, after.pc.holds = none → Registered
        ({ controller with
          suspendedGenerations := controller.suspendedGenerations - 1 }.setCall callId after) :=
      fun after free =>
        (registered.setCall found (none_held free)).congr rfl rfl rfl rfl rfl
    unfold wake
    split
    · dsimp only
      split
      · exact woken _ rfl
      split <;> exact woken _ rfl
    · exact registered
  | cancels callId call found _ =>
    have cancelled : Registered (controller.setCall callId { call with pc := .cancelled }) :=
      registered.setCall found (none_held rfl)
    unfold cancel
    split
    · exact cancelled.congr rfl rfl rfl rfl rfl
    · exact cancelled
  | pauses sessionId instanceId =>
    exact (registered.markPreempting _).congr rfl rfl rfl rfl rfl
  | abortSucceeded requestId | abortFailed requestId =>
    exact registered.modifyRequest requestId (fun _ => rfl) (fun _ => rfl)
  | controls _ _ same =>
    exact registered.congr same.active same.requests same.nextRequestId same.calls same.nextCallId
  | shutsDown => exact (registered.markPreempting _).congr rfl rfl rfl rfl rfl

theorem run_registered (actions : List Action) : Registered (controller.run actions) :=
  @Runs.run_preserves _ _ step Registered
    (fun _ action held => step_registered held action) controller registered actions

end

/-- The gate is closed, the active requests are among those of the snapshot, and
no request was issued since. -/
structure Closed (snapshot : List Nat) (issued : Nat) (controller : Controller) : Prop where
  paused : controller.paused = true
  within : ∀ requestId ∈ controller.active, requestId ∈ snapshot
  issued : controller.nextRequestId = issued

variable {snapshot : List Nat} {issued : Nat}

section

variable (closed : Closed snapshot issued controller)

include closed

theorem Closed.congr (paused : other.paused = controller.paused)
    (active : other.active = controller.active)
    (nextRequestId : other.nextRequestId = controller.nextRequestId) :
    Closed snapshot issued other := by
  constructor
  · rw [paused]
    exact closed.paused
  · rw [active]
    exact closed.within
  · rw [nextRequestId]
    exact closed.issued

theorem Closed.modifyRequest (requestId : Nat) (change : ActiveGeneration → ActiveGeneration) :
    Closed snapshot issued (controller.modifyRequest requestId change) := by
  obtain ⟨requests, changed⟩ := modifyRequest_eq controller requestId change
  rw [changed]
  exact closed.congr rfl rfl rfl

theorem Closed.modifyAll (ids : List Nat) (change : ActiveGeneration → ActiveGeneration) :
    Closed snapshot issued (controller.modifyAll ids change) := by
  obtain ⟨requests, changed⟩ := modifyAll_eq controller ids change
  rw [changed]
  exact closed.congr rfl rfl rfl

theorem register_closed (callId : Nat) (call : Call) :
    Closed snapshot issued (controller.register callId call) := by
  unfold register
  split
  · exact closed.congr rfl rfl rfl
  · rw [if_pos closed.paused]
    exact closed.congr rfl rfl rfl

theorem stitch_closed (callId : Nat) (call : Call) (requestId : Nat) (response : SGLangResponse)
    (forced : Bool) :
    Closed snapshot issued (controller.stitch callId call requestId response forced) := by
  unfold stitch
  split <;> exact closed.congr rfl rfl rfl

theorem leave_closed (callId : Nat) (call : Call) (requestId : Nat) (exit : Exit) :
    Closed snapshot issued (controller.leave callId call requestId exit) := by
  have removed : Closed snapshot issued (controller.remove requestId exit) := by
    have changed := closed.modifyRequest requestId (quiesce exit)
    refine { changed with within := ?_ }
    intro other member
    exact closed.within other (mem_of_mem_filter member)
  unfold leave
  dsimp only
  split
  · exact removed.congr rfl rfl rfl
  · split <;> exact removed.congr rfl rfl rfl

theorem step_closed (action : Action) (unresumed : controller.resumes action = false) :
    Closed snapshot issued (controller.step action) := by
  cases action with
  | call request => exact closed.congr rfl rfl rfl
  | proceed callId =>
    simp only [step, proceed]
    split
    · split
      · split
        · split <;> exact closed.congr rfl rfl rfl
        · exact closed
      · exact closed
    · exact closed
  | register callId =>
    simp only [step]
    split
    · split
      · exact register_closed closed callId _
      · exact closed
    · exact closed
  | respond callId response =>
    simp only [step]
    split
    · split
      · exact stitch_closed closed callId _ _ response _
      · exact closed
    · exact closed
  | fail callId message =>
    simp only [step, engineRaises]
    split
    · split
      · split
        · exact closed.congr rfl rfl rfl
        split
        · exact stitch_closed closed callId _ _ _ _
        · exact closed.congr rfl rfl rfl
      · exact closed
    · exact closed
  | leave callId =>
    simp only [step]
    split
    · split
      · split
        · exact leave_closed closed callId _ _ _
        · exact closed
      · exact closed
    · exact closed
  | wake callId =>
    simp only [step, wake]
    split
    · split
      · split
        · split
          · exact closed.congr rfl rfl rfl
          split <;> exact closed.congr rfl rfl rfl
        · exact closed
      · exact closed
    · exact closed
  | cancel callId =>
    simp only [step, cancel]
    split
    · split
      · exact closed
      · split <;> exact closed.congr rfl rfl rfl
    · exact closed
  | pause sessionId instanceId =>
    simp only [step, pause]
    split
    · have marked := closed.modifyAll (controller.selected sessionId instanceId) markPreempting
      exact { marked with paused := rfl }
    · exact closed
  | abortSucceeds requestId | abortFails requestId => exact closed.modifyRequest requestId _
  | resumeBegin version =>
    simp only [step, resumeBegin]
    split
    · split
      · exact closed
      · rw [if_pos closed.paused]
        exact closed.congr rfl rfl rfl
    · exact closed
  | resumeEnd ready =>
    simp only [step, resumeEnd]
    split
    · rename_i pending held
      simp only [resumes, held, Option.isSome_some, Bool.true_and] at unresumed
      rw [unresumed]
      exact closed.congr rfl rfl rfl
    · exact closed
  | synchronizeVersion version =>
    have busy : controller.busy = true := by
      simp [busy, closed.paused]
    simp only [step, synchronizeVersion]
    split
    · split <;> exact closed
    · exact closed
  | shutdown =>
    simp only [step, shutdown]
    split
    · have marked := closed.modifyAll controller.active markPreempting
      exact { marked with paused := rfl }
    · exact closed

end

def Controller.Unresumed (controller : Controller) (actions : List Action) : Prop :=
  Runs.Admits step (fun state action => state.resumes action = false) controller actions

theorem run_closed (closed : Closed snapshot issued controller) {actions : List Action}
    (unresumed : controller.Unresumed actions) :
    Closed snapshot issued (controller.run actions) :=
  @Runs.run_invariant _ _ step (fun state action => state.resumes action = false)
    (Closed snapshot issued) (fun _ action held open_ => step_closed held action open_) controller
    closed actions unresumed

theorem pause_closed (registered : Registered controller) :
    Closed (controller.selected none none) controller.nextRequestId
      (controller.pause none none) := by
  have all : controller.selected none none = controller.active := by
    unfold selected
    apply filter_eq_self.mpr
    intro requestId member
    obtain ⟨record, found, _⟩ := registered.listed requestId member
    rw [found]
    rfl
  obtain ⟨requests, changed⟩ :=
    modifyAll_eq controller (controller.selected none none) markPreempting
  unfold pause
  dsimp only
  rw [changed, all]
  exact ⟨rfl, fun _ member => member, rfl⟩

theorem Closed.emptied (closed : Closed snapshot issued controller)
    (registered : Registered controller) (quiesced : controller.quiesced snapshot = true) :
    Closed [] issued controller := by
  refine { closed with within := ?_ }
  intro requestId member
  obtain ⟨record, found, unset⟩ := registered.listed requestId member
  have set := all_eq_true.mp quiesced requestId (closed.within requestId member)
  rw [found] at set
  dsimp only at set
  rw [unset] at set
  cases set

def Controller.outputsAt (controller : Controller) (callId : Nat) : List Nat :=
  ((controller.calls.get? callId).map (fun call => call.progress.outputIds)).getD []

theorem outputsAt_congr (calls : other.calls = controller.calls) (callId : Nat) :
    other.outputsAt callId = controller.outputsAt callId := by
  unfold outputsAt
  rw [calls]

theorem outputsAt_of_found (found : controller.calls.get? callId = some call) :
    controller.outputsAt callId = call.progress.outputIds := by
  unfold outputsAt
  rw [found]
  rfl

theorem outputsAt_set (calls : other.calls = controller.calls.set callId after) (id : Nat) :
    other.outputsAt id =
      if id = callId then after.progress.outputIds else controller.outputsAt id := by
  unfold outputsAt
  rw [calls, get?_set]
  split <;> rfl

theorem outputsAt_kept {progress : Progress} {pc : Pc}
    (found : controller.calls.get? callId = some call)
    (same : progress.outputIds = call.progress.outputIds)
    (calls : other.calls = controller.calls.set callId
      { call with
        progress := progress
        pc := pc }) (id : Nat) :
    other.outputsAt id = controller.outputsAt id := by
  rw [outputsAt_set calls]
  split
  · rename_i at_
    rw [at_, outputsAt_of_found found]
    exact same
  · rfl

theorem outputsAt_stitch (found : controller.calls.get? callId = some call)
    (response : SGLangResponse) (forced : Bool) (id : Nat) :
    (controller.stitch callId call requestId response forced).outputsAt id =
      controller.outputsAt id ++
        if callId = id ∧ versionError call.request response = none then response.outputIds
        else [] := by
  unfold stitch
  cases checked : versionError call.request response with
  | some error =>
    rw [outputsAt_kept found rfl rfl, if_neg (by simp), append_nil]
  | none =>
    rw [outputsAt_set rfl]
    by_cases same : id = callId
    · subst same
      rw [if_pos rfl, if_pos ⟨rfl, rfl⟩, outputsAt_of_found found]
      rfl
    · rw [if_neg same, if_neg (fun both => same both.1.symm), append_nil]

theorem outputsAt_leave {callId requestId : Nat} {call : Call} {exit : Exit}
    (found : controller.calls.get? callId = some call) (id : Nat) :
    (controller.leave callId call requestId exit).outputsAt id = controller.outputsAt id := by
  obtain ⟨requests, active, removed⟩ := remove_eq controller requestId exit
  unfold leave
  rw [removed]
  dsimp only
  cases exit with
  | raises error => exact outputsAt_kept found rfl rfl id
  | chunk preempted =>
    dsimp only
    unfold afterChunk
    split
    · exact outputsAt_kept found rfl rfl id
    · rename_i progress followed
      have same : progress.outputIds = call.progress.outputIds := by
        split at followed
        · cases followed
        split at followed
        · cases followed
          rfl
        split at followed
        · cases followed
        · cases followed
          rfl
      exact outputsAt_kept found same rfl id
    · rename_i progress followed
      have same : progress.outputIds = call.progress.outputIds := by
        split at followed
        · cases followed
        split at followed
        · cases followed
        split at followed
        · cases followed
          rfl
        · cases followed
      exact outputsAt_kept found same rfl id

theorem outputsAt_register (found : controller.calls.get? callId = some call) (id : Nat) :
    (controller.register callId call).outputsAt id = controller.outputsAt id := by
  unfold register
  split
  · exact outputsAt_kept found rfl rfl id
  split
  · exact outputsAt_kept found rfl rfl id
  · have same : (stampEpoch call.progress controller.rolloutEpoch).outputIds =
        call.progress.outputIds := rfl
    exact outputsAt_kept found same rfl id

section

variable (registered : Registered controller)

include registered

theorem outputsAt_enter (request : Request) (id : Nat) :
    (controller.enter request).outputsAt id = controller.outputsAt id := by
  unfold enter
  rw [outputsAt_set rfl]
  split
  · rename_i same
    have absent : controller.calls.get? id = none := by
      cases found : controller.calls.get? id with
      | none => rfl
      | some call =>
        have below := registered.entered id call found
        omega
    unfold outputsAt
    rw [absent]
    rfl
  · rfl

theorem step_outputs_kept {action : Action}
    (unanswered : ∀ callId response, action ≠ .respond callId response) (id : Nat) :
    (controller.step action).outputsAt id = controller.outputsAt id := by
  have effect := step_effect controller action
  generalize controller.step action = after at effect ⊢
  cases effect with
  | idle => rfl
  | enters request => exact outputsAt_enter registered request id
  | proceeds callId call found _ =>
    unfold proceed
    split
    · split <;> exact outputsAt_kept found rfl rfl id
    · rfl
  | registers callId call found _ => exact outputsAt_register found id
  | responds callId call requestId response _ _ => exact absurd rfl (unanswered callId response)
  | fails callId call requestId message found _ =>
    unfold engineRaises
    split
    · exact outputsAt_kept found rfl rfl id
    split
    · -- The response made up for an aborted request has no tokens.
      have empty : interruptedResponse.outputIds = [] := rfl
      rw [outputsAt_stitch found, empty, ite_self, append_nil]
    · exact outputsAt_kept found rfl rfl id
  | leaves callId call requestId exit found _ => exact outputsAt_leave found id
  | wakes callId call found _ =>
    unfold wake
    split
    · dsimp only
      split
      · exact outputsAt_kept found rfl rfl id
      split <;> exact outputsAt_kept found rfl rfl id
    · rfl
  | cancels callId call found _ =>
    unfold cancel
    split <;> exact outputsAt_kept found rfl rfl id
  | pauses sessionId instanceId =>
    obtain ⟨requests, changed⟩ :=
      modifyAll_eq controller (controller.selected sessionId instanceId) markPreempting
    unfold pause
    dsimp only
    rw [changed]
    rfl
  | abortSucceeded requestId =>
    obtain ⟨requests, changed⟩ := modifyRequest_eq controller requestId (abortResult true)
    rw [changed]
    rfl
  | abortFailed requestId =>
    obtain ⟨requests, changed⟩ := modifyRequest_eq controller requestId (abortResult false)
    rw [changed]
    rfl
  | controls _ _ same => exact outputsAt_congr same.calls id
  | shutsDown =>
    obtain ⟨requests, changed⟩ := modifyAll_eq controller controller.active markPreempting
    unfold shutdown
    rw [changed]
    rfl

theorem step_outputs (action : Action) (id : Nat) :
    (controller.step action).outputsAt id =
      controller.outputsAt id ++ controller.delivered id action := by
  cases action with
  | respond target response =>
    simp only [step, delivered]
    cases found : controller.calls.get? target with
    | none => exact (append_nil _).symm
    | some call =>
      dsimp only
      cases call.pc with
      | generating requestId => exact outputsAt_stitch found response _ id
      | _ => exact (append_nil _).symm
  | _ =>
    rw [step_outputs_kept registered (by intro _ _ same; cases same)]
    exact (append_nil _).symm

theorem outputs_received (actions : List Action) (id : Nat) :
    (controller.run actions).outputsAt id =
      controller.outputsAt id ++ controller.received id actions := by
  induction actions generalizing controller with
  | nil => exact (append_nil _).symm
  | cons action rest ih =>
    have later := ih (step_registered registered action)
    rw [step_outputs registered action id, append_assoc] at later
    exact later

end

/-- What holds after a pause has returned: nothing is active or in flight, nothing
was issued since the return, and the next request of a call starts from all that
the call has received. -/
structure Barrier (returned now : Controller) (received : Nat → List Nat) : Prop where
  empty : now.active = []
  unissued : now.nextRequestId = returned.nextRequestId
  silent : ∀ callId call, now.calls.get? callId = some call → call.pc.holds = none
  appended : ∀ callId call, now.calls.get? callId = some call →
    call.requestTokens = call.request.inputIds ++ received callId

theorem Closed.barrier {returned : Controller}
    (closed : Closed [] returned.nextRequestId controller) (registered : Registered controller)
    {received : Nat → List Nat} (prefixes : ∀ callId, controller.outputsAt callId =
      received callId) : Barrier returned controller received := by
  have empty : controller.active = [] := by
    apply eq_nil_iff_forall_not_mem.mpr
    intro requestId member
    cases closed.within requestId member
  refine
    { empty := empty
      unissued := closed.issued
      silent := ?_
      appended := ?_ }
  · intro callId call found
    cases held : call.pc.holds with
    | none => rfl
    | some requestId =>
      obtain ⟨member, _⟩ := registered.holder callId call requestId found held
      rw [empty] at member
      cases member
  · intro callId call found
    rw [Call.requestTokens, ← prefixes callId, outputsAt_of_found found]

namespace OvertakenPause

def request : Request :=
  { inputIds := [1, 2]
    maxNewTokens := 8
    sessionId := some "session"
    instanceId := some "instance"
    turnId := some "turn"
    expectedVersion := none
    expectedEpoch := none
    logprobStartLen := -1
    contextWindow := none }

def response : SGLangResponse :=
  { inputTokenLogprobsRaw := []
    inputTokenTexts := []
    outputIds := [7]
    outputTokenLogprobs := [0]
    outputTokenTexts := ["x"]
    text := "x"
    metaFinishReason := some "abort"
    weightVersion := some "1"
    finishReason := "abort"
    inputLogprobsInvalid := false
    allLogprobsInvalid := false }

def before : List Action := [.call request, .proceed 0, .register 0]

/-- A resume opens the gate while the pause waits, a second call registers, and
only then is the first request quiesced. -/
def during : List Action :=
  [.resumeBegin none, .resumeEnd true, .call request, .proceed 1, .register 1,
    .respond 0 response, .leave 0]

def drained : List Action := [.abortSucceeds 0, .respond 0 response, .leave 0]

def later : List Action := [.call request, .proceed 1, .register 1, .wake 0]

end OvertakenPause

/-- From the return of an unfiltered pause with `quiesced` true until a resume takes
effect the controller is a barrier, if no resume took effect since the pause
closed the gate. -/
theorem pause_is_barrier (partialRollout : Bool) (before during later : List Action)
    (unlocked : ((initial partialRollout).run before).lockFree = true)
    (quiesced : ((initial partialRollout).run
      (before ++ .pause none none :: during)).quiesced
        (((initial partialRollout).run before).selected none none) = true)
    (unresumed : (((initial partialRollout).run before).pause none none).Unresumed
      (during ++ later)) :
    Barrier ((initial partialRollout).run (before ++ .pause none none :: during))
      ((initial partialRollout).run (before ++ .pause none none :: during ++ later))
      (fun callId => (initial partialRollout).received callId
        (before ++ .pause none none :: during ++ later)) := by
  have start := initial_registered partialRollout
  have pausing : ∀ rest, (initial partialRollout).run
      (before ++ .pause none none :: rest) =
      (((initial partialRollout).run before).pause none none).run rest := by
    intro rest
    unfold run at unlocked ⊢
    rw [Runs.run_append, Runs.run_cons, step, if_pos unlocked]
  have shut := pause_closed (run_registered start before)
  obtain ⟨first, second⟩ := (Runs.admits_append _ _ _ during later).mp unresumed
  have atReturn := run_registered start (before ++ .pause none none :: during)
  rw [pausing during] at quiesced atReturn
  have returned := run_closed shut first
  have emptied : Closed []
      ((((initial partialRollout).run before).pause none none).run during).nextRequestId
      ((((initial partialRollout).run before).pause none none).run during) :=
    { returned.emptied atReturn quiesced with issued := rfl }
  have still := run_closed emptied second
  have whole : (initial partialRollout).run
      (before ++ .pause none none :: during ++ later) =
      ((((initial partialRollout).run before).pause none none).run during).run
        later := by
    rw [← pausing during]
    exact Runs.run_append _ _ _ _
  rw [pausing during]
  have atNow := run_registered start (before ++ .pause none none :: during ++ later)
  have prefixes := outputs_received start (before ++ .pause none none :: during ++ later)
  rw [whole] at atNow prefixes ⊢
  exact still.barrier atNow prefixes

theorem drained_pause_is_barrier :
    Barrier
      ((initial true).run
        (OvertakenPause.before ++ .pause none none :: OvertakenPause.drained))
      ((initial true).run (OvertakenPause.before ++
        .pause none none :: OvertakenPause.drained ++ OvertakenPause.later))
      (fun callId => (initial true).received callId (OvertakenPause.before ++
        .pause none none :: OvertakenPause.drained ++ OvertakenPause.later)) := by
  apply pause_is_barrier true OvertakenPause.before OvertakenPause.drained OvertakenPause.later
  · decide
  · decide
  · unfold Controller.Unresumed
    decide

/-- Counted from its return alone, a pause is no barrier: overtaken by a resume it
returns quiesced while the second call's request is active. -/
theorem overtaken_pause_is_no_barrier :
    ((initial true).run OvertakenPause.before).lockFree = true ∧
    ((initial true).run
      (OvertakenPause.before ++ .pause none none :: OvertakenPause.during)).quiesced
        (((initial true).run OvertakenPause.before).selected none none) = true ∧
    ((initial true).run
      (OvertakenPause.before ++ .pause none none :: OvertakenPause.during)).active = [1] ∧
    ¬ Barrier
      ((initial true).run
        (OvertakenPause.before ++ .pause none none :: OvertakenPause.during))
      ((initial true).run
        (OvertakenPause.before ++ .pause none none :: OvertakenPause.during))
      (fun callId => (initial true).received callId
        (OvertakenPause.before ++ .pause none none :: OvertakenPause.during)) := by
  have active : ((initial true).run
      (OvertakenPause.before ++ .pause none none :: OvertakenPause.during)).active = [1] := by
    decide
  refine ⟨by decide, by decide, active, ?_⟩
  intro barrier
  have empty := barrier.empty
  rw [active] at empty
  cases empty

/-- No two calls hold one request, and each goes on from its prompt and all it has received. -/
structure CallsApart (controller : Controller) (received : Nat → List Nat) : Prop where
  alone : ∀ first second call other requestId, controller.calls.get? first = some call →
    controller.calls.get? second = some other → call.pc.holds = some requestId →
      other.pc.holds = some requestId → first = second
  appended : ∀ callId call, controller.calls.get? callId = some call →
    call.requestTokens = call.request.inputIds ++ received callId

theorem calls_stay_apart (partialRollout : Bool) (actions : List Action) :
    CallsApart ((initial partialRollout).run actions)
      (fun callId => (initial partialRollout).received callId actions) := by
  have start := initial_registered partialRollout
  constructor
  · intro first second call other requestId found alsoFound holds alsoHolds
    have registered := run_registered start actions
    obtain ⟨_, record, known, owner⟩ := registered.holder first call requestId found holds
    obtain ⟨_, same, alsoKnown, alsoOwner⟩ :=
      registered.holder second other requestId alsoFound alsoHolds
    rw [known, Option.some_inj] at alsoKnown
    rw [← owner, alsoKnown, alsoOwner]
  · intro callId call found
    have outputs := outputs_received start actions callId
    rw [outputsAt_of_found found] at outputs
    rw [Call.requestTokens, outputs]
    rfl

end Dressage.GenerationController

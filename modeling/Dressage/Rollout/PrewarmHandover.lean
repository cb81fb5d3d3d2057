/-
Handed over or terminated, once.

A cleanup of everything leaves no earlier prewarm in the store, and the tasks it
leaves behind come to their end. A prewarm started under a session id whose last
user is still being disposed of loses its sandbox to that dispose.
-/

import Mathlib.Algebra.Order.BigOperators.Group.List
import Mathlib.Algebra.Order.Ring.Nat
import Dressage.Rollout.PrewarmSandboxes

namespace Dressage.Rollout.Prewarm

open Lib List World

variable {Paddock Args State : Type}

theorem store_awaitTask (world : World Paddock Args State) (record : PrewarmRecord Paddock Args)
    (mustCancel : Bool) : (world.awaitTask record mustCancel).store = world.store := by
  unfold awaitTask
  split
  · split <;> rfl
  · split <;> rfl
  · rfl
  · rfl

variable [DecidableEq Paddock]

variable {number : Nat} {disposal : Disposal Paddock Args} {world : World Paddock Args State}

theorem stored_step (world : World Paddock Args State) (event : Event Paddock Args State)
    (member : number ∈ (step world event).stored) :
    number ∈ world.stored ∨ number = world.tasks.length := by
  cases event with
  | start sample uuid4 groupId paddock envArgs =>
    revert member
    change number ∈ (world.start _ groupId paddock envArgs).stored → _
    unfold start
    split
    · exact .inl
    · intro member
      obtain ⟨record, inStore, rfl⟩ := mem_map.mp member
      obtain ⟨entry, inEntries, rfl⟩ := mem_map.mp inStore
      rcases OrderedDict.mem_entries_set inEntries with same | kept
      · exact .inr (congrArg (fun entry => entry.2.number) same)
      · exact .inl (mem_map_of_mem (mem_map_of_mem kept))
  | claim sessionId =>
    left
    revert member
    change number ∈ (world.claim sessionId).stored → _
    unfold claim
    split
    · exact id
    · next record store taken =>
        obtain ⟨present, _, found⟩ := Option.bind_eq_some_iff.mp taken
        unfold stored
        rw [store_awaitTask, ((PrewarmStore.perm_take found).map _).mem_iff]
        exact mem_cons_of_mem _
  | cancelClaim other =>
    left
    revert member
    change number ∈ (world.cancelClaim other).stored → _
    unfold cancelClaim
    split
    · exact id
    · split <;> exact id
  | cleanupGroup groupId =>
    left
    unfold stored
    rw [((world.store.perm_takeGroup groupId).map _).mem_iff, map_append]
    exact mem_append_right _ member
  | cleanupAll => cases member
  | finishInit other outcome =>
    left
    revert member
    change number ∈ (world.finishInit other outcome).stored → _
    unfold finishInit
    split
    · exact id
    · split <;> exact id
  | resumeClaim other =>
    left
    revert member
    change number ∈ (world.resumeClaim other).stored → _
    unfold resumeClaim
    split
    · exact id
    · split
      · unfold stored
        rw [store_awaitTask]
        exact id
      · exact id
  | beginDispose other =>
    left
    revert member
    change number ∈ (world.beginDispose other).stored → _
    unfold beginDispose
    split <;> exact id
  | gatherDispose other =>
    left
    revert member
    change number ∈ (world.gatherDispose other).stored → _
    unfold gatherDispose
    split <;> exact id
  | terminate other =>
    left
    revert member
    change number ∈ (world.terminate other).stored → _
    unfold terminate
    split <;> exact id

omit [DecidableEq Paddock] in
theorem length_setStatus (world : World Paddock Args State) (number : Nat)
    (change : InitStatus State → InitStatus State) :
    (world.setStatus number change).tasks.length = world.tasks.length :=
  length_modify _ _ _

theorem length_step (world : World Paddock Args State) (event : Event Paddock Args State) :
    world.tasks.length ≤ (step world event).tasks.length := by
  cases event with
  | start sample uuid4 groupId paddock envArgs =>
    change _ ≤ (world.start _ groupId paddock envArgs).tasks.length
    unfold start
    split
    · exact le_refl _
    · simp
  | claim sessionId => exact (congrArg List.length (moves_claim world sessionId).tasks).ge
  | cancelClaim number =>
    change _ ≤ (world.cancelClaim number).tasks.length
    unfold cancelClaim
    split
    · exact le_refl _
    · split
      · exact le_refl _
      · exact (length_setStatus world number _).ge
  | cleanupGroup groupId => exact le_refl _
  | cleanupAll => exact le_refl _
  | finishInit number outcome =>
    change _ ≤ (world.finishInit number outcome).tasks.length
    unfold finishInit
    split
    · exact le_refl _
    · split
      · exact le_refl _
      · exact (length_setStatus world number (fun _ => outcome.status)).ge
  | resumeClaim number => exact (congrArg List.length (moves_resumeClaim world number).tasks).ge
  | beginDispose number =>
    change _ ≤ (world.beginDispose number).tasks.length
    unfold beginDispose
    split
    · exact le_refl _
    · exact (length_setStatus world number _).ge
  | gatherDispose number =>
    change _ ≤ (world.gatherDispose number).tasks.length
    unfold gatherDispose
    split <;> exact le_refl _
  | terminate number =>
    change _ ≤ (world.terminate number).tasks.length
    unfold terminate
    split <;> exact le_refl _

theorem released_of_cleanupAll (world : World Paddock Args State)
    (later : List (Event Paddock Args State))
    (member : number ∈ (Runs.run step (step world .cleanupAll) later).stored) :
    world.tasks.length ≤ number := by
  have preserved : ∀ (state : World Paddock Args State) (event : Event Paddock Args State),
      (world.tasks.length ≤ state.tasks.length ∧
        ∀ number ∈ state.stored, world.tasks.length ≤ number) →
      world.tasks.length ≤ (step state event).tasks.length ∧
        ∀ number ∈ (step state event).stored, world.tasks.length ≤ number := by
    intro state event ⟨longer, newer⟩
    refine ⟨longer.trans (length_step state event), ?_⟩
    intro other isStored
    rcases stored_step state event isStored with before | fresh
    · exact newer other before
    · exact fresh ▸ longer
  have initially : world.tasks.length ≤ (step world .cleanupAll).tasks.length ∧
      ∀ number ∈ (step world .cleanupAll).stored, world.tasks.length ≤ number := by
    refine ⟨length_step world .cleanupAll, ?_⟩
    intro other impossible
    cases impossible
  exact (Runs.run_preserves preserved initially later).2 number member

def DisposeStage.remaining : DisposeStage → Nat
  | .scheduled => 3
  | .gathering => 2
  | .releasing => 1

def World.remaining (world : World Paddock Args State) : Nat :=
  world.tasks.countP (fun task => !task.status.done) + 4 * world.claims.length +
    (world.disposals.map (fun disposal => disposal.stage.remaining)).sum

def Drained (world : World Paddock Args State) : Prop :=
  world.claims = [] ∧ world.disposals = []

omit [DecidableEq Paddock] in
theorem remaining_awaitTask (world : World Paddock Args State)
    (record : PrewarmRecord Paddock Args) (mustCancel : Bool)
    (done : (world.status record.number).any InitStatus.done = true) :
    (world.awaitTask record mustCancel).remaining ≤ world.remaining + 3 := by
  have scheduled : (world.scheduleDispose [record]).remaining = world.remaining + 3 := by
    simp [remaining, scheduleDispose, DisposeStage.remaining]
    omega
  unfold awaitTask
  split
  · split
    · exact scheduled.le
    · exact Nat.le_add_right _ _
  · split
    · exact scheduled.le
    · exact Nat.le_add_right _ _
  · exact scheduled.le
  · next notReturned notFailed notCancelled =>
      obtain ⟨status, found, isDone⟩ := (any_done_iff _).mp done
      cases status with
      | pending requested => cases isDone
      | returned state => exact absurd found (notReturned state)
      | failed => exact absurd found notFailed
      | cancelled => exact absurd found notCancelled

omit [DecidableEq Paddock] in
theorem countP_failed {tasks : List (InitTask Paddock State)} {task : InitTask Paddock State}
    (found : tasks[number]? = some task) (running : ¬ task.status.done = true) :
    (tasks.modify number (fun task => { task with status := .failed })).countP
      (fun task => !task.status.done) < tasks.countP (fun task => !task.status.done) := by
  have counted := Lists.countP_modify (fun task : InitTask Paddock State => !task.status.done)
    found (fun task => { task with status := .failed })
  rw [if_pos (by simpa using running), if_neg (by simp [InitStatus.done])] at counted
  omega

theorem remaining_finishInit (world : World Paddock Args State) {task : InitTask Paddock State}
    (found : world.tasks[number]? = some task) (running : ¬ task.status.done = true) :
    (world.finishInit number (.raised false false)).remaining < world.remaining := by
  unfold finishInit
  rw [found]
  simp only [if_neg running]
  have fewer := countP_failed found running
  change (world.tasks.modify number (fun task => { task with status := .failed })).countP
    (fun task => !task.status.done) + 4 * world.claims.length +
      (world.disposals.map (fun disposal => disposal.stage.remaining)).sum < _
  unfold remaining
  omega

omit [DecidableEq Paddock] in
theorem remaining_resumeClaim (world : World Paddock Args State)
    {claim : PendingClaim Paddock Args} {rest : List (PendingClaim Paddock Args)}
    (first : world.claims = claim :: rest)
    (done : (world.status claim.record.number).any InitStatus.done = true) :
    (world.resumeClaim claim.record.number).remaining < world.remaining := by
  have own : isClaimOf claim.record.number claim = true := beq_self_eq_true _
  unfold resumeClaim
  rw [first, find?_cons_of_pos own]
  simp only [if_pos done, eraseP_cons_of_pos own]
  have awaited :=
    remaining_awaitTask { world with claims := rest } claim.record claim.mustCancel done
  have shorter : remaining { world with claims := rest } + 4 = world.remaining := by
    unfold remaining
    simp only [first, length_cons]
    omega
  omega

omit [DecidableEq Paddock] in
theorem remaining_advance (world : World Paddock Args State) {after : DisposeStage}
    (member : disposal ∈ world.disposals) (nearer : after.remaining < disposal.stage.remaining) :
    (world.advance disposal.record.number disposal.stage after).remaining < world.remaining := by
  unfold remaining advance
  simp only [map_map]
  apply Nat.add_lt_add_left
  apply sum_lt_sum
  · intro other _
    simp only [Function.comp_apply]
    split
    · next own =>
        unfold isDisposalOf at own
        simp only [Bool.and_eq_true, beq_iff_eq] at own
        simp only [own.2]
        omega
    · exact le_refl _
  · refine ⟨disposal, member, ?_⟩
    simp [isDisposalOf, nearer]

omit [DecidableEq Paddock] in
theorem countP_cancel (tasks : List (InitTask Paddock State)) (number : Nat) :
    (tasks.modify number (fun task => { task with status := task.status.cancel })).countP
      (fun task => !task.status.done) = tasks.countP (fun task => !task.status.done) := by
  cases found : tasks[number]? with
  | none => rw [modify_eq_self (List.getElem?_eq_none_iff.mp found)]
  | some task =>
    have counted := Lists.countP_modify (fun task : InitTask Paddock State => !task.status.done)
      found (fun task => { task with status := task.status.cancel })
    have same : task.status.cancel.done = task.status.done := by
      cases task.status with
      | pending requested => rfl
      | returned state => rfl
      | failed => rfl
      | cancelled => rfl
    rw [same] at counted
    omega

theorem remaining_terminate (world : World Paddock Args State) {rest : List (Disposal Paddock Args)}
    (first : world.disposals = disposal :: rest) (atRelease : disposal.stage = .releasing) :
    (world.terminate disposal.record.number).remaining < world.remaining := by
  have own : isDisposalOf disposal.record.number .releasing disposal = true := by
    simp [isDisposalOf, atRelease]
  unfold terminate
  rw [first, find?_cons_of_pos own]
  simp only [eraseP_cons_of_pos own]
  unfold remaining
  simp only [first, map_cons, sum_cons, atRelease, DisposeStage.remaining]
  omega

omit [DecidableEq Paddock] in
theorem remaining_beginDispose (world : World Paddock Args State)
    {rest : List (Disposal Paddock Args)} (first : world.disposals = disposal :: rest)
    (fresh : disposal.stage = .scheduled) :
    (world.beginDispose disposal.record.number).remaining < world.remaining := by
  have own : isDisposalOf disposal.record.number .scheduled disposal = true := by
    simp [isDisposalOf, fresh]
  have same : (world.setStatus disposal.record.number InitStatus.cancel).remaining =
      world.remaining := by
    unfold remaining setStatus
    simp only [countP_cancel]
  unfold beginDispose
  rw [first, find?_cons_of_pos own, ← same, ← fresh]
  apply remaining_advance
  · exact first ▸ mem_cons_self
  · rw [fresh]
    decide

theorem exists_background (sound : Sound [] world) (busy : ¬ Drained world) :
    ∃ event : Event Paddock Args State, event.background = true ∧
      (step world event).remaining < world.remaining := by
  have runs : ∀ record ∈ world.live [],
      (world.status record.number).any InitStatus.done = true ∨
        ∃ event : Event Paddock Args State, event.background = true ∧
          (step world event).remaining < world.remaining := by
    intro record member
    obtain ⟨task, found, _, _⟩ := sound.live record member
    by_cases done : task.status.done = true
    · left
      unfold status
      rw [found]
      exact done
    · exact .inr ⟨.finishInit record.number (.raised false false), rfl,
        remaining_finishInit world found done⟩
  cases waiting : world.claims with
  | cons claim rest =>
    have inUse : claim.record ∈ world.live [] := by
      simp [live, waiting]
    rcases runs claim.record inUse with done | progress
    · exact ⟨.resumeClaim claim.record.number, rfl, remaining_resumeClaim world waiting done⟩
    · exact progress
  | nil =>
    cases underWay : world.disposals with
    | nil => exact absurd ⟨waiting, underWay⟩ busy
    | cons disposal rest =>
      have inUse : disposal.record ∈ world.live [] := by
        simp [live, underWay]
      cases stage : disposal.stage with
      | scheduled =>
        exact ⟨.beginDispose disposal.record.number, rfl,
          remaining_beginDispose world underWay stage⟩
      | gathering =>
        rcases runs disposal.record inUse with done | progress
        · refine ⟨.gatherDispose disposal.record.number, rfl, ?_⟩
          change (world.gatherDispose disposal.record.number).remaining < world.remaining
          unfold gatherDispose
          rw [if_pos done, ← stage]
          apply remaining_advance
          · exact underWay ▸ mem_cons_self
          · rw [stage]
            decide
        · exact progress
      | releasing =>
        exact ⟨.terminate disposal.record.number, rfl, remaining_terminate world underWay stage⟩

theorem drains (sound : Sound [] world) :
    ∃ tasks : List (Event Paddock Args State), (∀ event ∈ tasks, event.background = true) ∧
      Drained (Runs.run step world tasks) := by
  induction steps : world.remaining using Nat.strong_induction_on generalizing world with
  | _ steps ih =>
    by_cases quiet : Drained world
    · refine ⟨[], ?_, quiet⟩
      intro event impossible
      cases impossible
    · obtain ⟨event, background, fewer⟩ := exists_background sound quiet
      obtain ⟨tasks, all, drained⟩ := ih _ (steps ▸ fewer) (sound.step event) rfl
      refine ⟨event :: tasks, ?_, drained⟩
      intro other member
      rcases mem_cons.mp member with rfl | later
      · exact background
      · exact all other later

structure OwnedOnce (world : World Paddock Args State) : Prop where
  grouped : Grouped world.store
  once : ∀ number state, world.status number = some (.returned state) →
    world.stored.count number + world.awaited.count number + world.disposing.count number +
      world.handed.count number + world.torn.count number = 1
  /-- A terminate call takes down the sandbox of its own prewarm or none. -/
  own : ∀ call ∈ world.calls, ∀ number, call.sandbox = some number → number = call.record.number
  claimed : ∀ handle ∈ world.handles, ∃ task, world.tasks[handle.number]? = some task ∧
    task.sessionId = handle.sessionId ∧ task.paddock = handle.paddock ∧
      task.status = .returned handle.state
  cleaned : ∀ groupId, ∀ record ∈ world.store.records.values,
    if record.groupId = groupId then record.number ∈ (world.cleanupGroup groupId).disposing
    else record ∈ (world.cleanupGroup groupId).store.records.values

/-- A prewarm that was initialized and is with nobody any more was handed over or torn down. -/
def Settled (world : World Paddock Args State) (number : Nat) : Prop :=
  ∀ state, world.status number = some (.returned state) → number ∉ world.awaited →
    number ∉ world.disposing → world.handed.count number + world.torn.count number = 1

theorem count_torn (wired : Wired world) {state : State}
    (returned : world.status number = some (.returned state)) :
    world.torn.count number = world.terminated.count number := by
  have own : ∀ calls : List (TerminateCall Paddock Args),
      (∀ call ∈ calls, call.sandbox = world.ownSandbox call.record.number) →
      (calls.filterMap TerminateCall.sandbox).count number =
        (calls.map (fun call => call.record.number)).count number := by
    intro calls all
    induction calls with
    | nil => rfl
    | cons call rest ih =>
      have tail := ih (fun other member => all other (mem_cons_of_mem call member))
      have head := all call mem_cons_self
      rw [map_cons, count_cons, ← tail]
      by_cases same : call.record.number = number
      · unfold ownSandbox at head
        rw [same, returned] at head
        rw [filterMap_cons_some head, count_cons_self, same]
        simp
      · unfold ownSandbox at head
        by_cases up : (world.status call.record.number).any InitStatus.up = true
        · rw [if_pos up] at head
          rw [filterMap_cons_some head, count_cons]
        · rw [if_neg up] at head
          rw [filterMap_cons_none head]
          simp [same]
  exact own world.calls wired.calls

theorem ownedOnce_of_wired (sound : Sound [] world) (wired : Wired world) : OwnedOnce world := by
  constructor
  · exact sound.grouped
  · intro number state returned
    have lower : number < world.tasks.length := by
      apply lt_of_done
      rw [returned]
      rfl
    have notMissed : world.missed.count number = 0 := by
      apply count_eq_zero.mpr
      intro member
      obtain ⟨record, inMisses, same⟩ := mem_map.mp member
      have failed := sound.misses record inMisses
      rw [same, returned] at failed
      cases failed
    have once := sound.once number
    rw [if_pos lower, held, count_live, notMissed] at once
    rw [count_torn wired returned]
    omega
  · intro call member number found
    have own := wired.calls call member
    rw [found] at own
    unfold ownSandbox at own
    split at own
    · exact Option.some.inj own
    · cases own
  · exact sound.handles
  · intro groupId record member
    have taken := sound.grouped.mem_takeGroup groupId member
    split at taken
    · next same =>
        rw [if_pos same]
        unfold disposing cleanupGroup scheduleDispose
        rw [map_append, map_map]
        exact mem_append_right _ (mem_map_of_mem taken)
    · next different =>
        rw [if_neg different]
        exact taken

/--
If every session id that `start` accepts is free, then every initialized prewarm has
one owner, is handed over or torn down once, and after a cleanup of everything it comes
to that.
-/
theorem owned_once_of_free_starts (events : List (Event Paddock Args State))
    (free : Runs.Admits step StartsFree idle events) :
    OwnedOnce (Runs.run step idle events) ∧
      (∀ past later, events = past ++ .cleanupAll :: later →
        ∀ number < (Runs.run step (idle : World Paddock Args State) past).tasks.length,
          Settled (Runs.run step idle events) number) ∧
      ∃ tasks : List (Event Paddock Args State), (∀ event ∈ tasks, event.background = true) ∧
        Drained (Runs.run step idle (events ++ tasks)) := by
  have preserved : ∀ (world : World Paddock Args State) (event : Event Paddock Args State),
      (Sound [] world ∧ Wired world) → StartsFree world event →
        Sound [] (step world event) ∧ Wired (step world event) :=
    fun world event both isFree => ⟨both.1.step event, both.2.step both.1 isFree⟩
  obtain ⟨sound, wired⟩ := Runs.run_invariant preserved ⟨sound_idle, wired_idle⟩ free
  have owned := ownedOnce_of_wired sound wired
  refine ⟨owned, ?_, ?_⟩
  · intro past later split number lower state returned notAwaited notDisposing
    have notStored : number ∉ (Runs.run step idle events).stored := by
      intro member
      rw [split, Runs.run_append, Runs.run_cons] at member
      have fresh := released_of_cleanupAll _ later member
      omega
    have once := owned.once number state returned
    rw [count_eq_zero.mpr notStored, count_eq_zero.mpr notAwaited,
      count_eq_zero.mpr notDisposing] at once
    omega
  · obtain ⟨tasks, background, drained⟩ := drains sound
    refine ⟨tasks, background, ?_⟩
    rw [Runs.run_append]
    exact drained

def sampleOne : SampleIds :=
  { deterministicSessionId := none
    retryCount := 0
    sessionId := some "bbs-one" }

def disposedThenReused : List (Event Unit Unit Nat) :=
  [.start sampleOne "" 0 () (), .finishInit 0 (.returned 10), .cleanupAll, .beginDispose 0,
    .gatherDispose 0, .terminate 0, .start sampleOne "" 1 () (), .finishInit 1 (.returned 11),
    .claim (some "bbs-one")]

theorem owned_once_disposed_then_reused :
    Runs.Admits step StartsFree idle disposedThenReused ∧
      OwnedOnce (Runs.run step idle disposedThenReused) ∧
      (Runs.run step idle disposedThenReused).torn = [0] ∧
      (Runs.run step idle disposedThenReused).handed = [1] :=
  have free : Runs.Admits step StartsFree idle disposedThenReused := by decide
  ⟨free, (owned_once_of_free_starts disposedThenReused free).1, by decide, by decide⟩

/-- The next prewarm of the session is started while the dispose of the last one is under way. -/
def reusedThenDisposed : List (Event Unit Unit Nat) :=
  [.start sampleOne "" 0 () (), .finishInit 0 (.returned 10), .cleanupGroup 0,
    .start sampleOne "" 1 () (), .beginDispose 0, .finishInit 1 (.returned 11),
    .gatherDispose 0, .terminate 0, .claim (some "bbs-one")]

theorem dispose_takes_successor :
    (Runs.run step idle reusedThenDisposed).handed = [1] ∧
      (Runs.run step idle reusedThenDisposed).torn = [1] ∧
      (Runs.run step idle reusedThenDisposed).terminated = [0] ∧
      ¬ OwnedOnce (Runs.run step idle reusedThenDisposed) := by
  refine ⟨by decide, by decide, by decide, ?_⟩
  intro owned
  have once := owned.once 1 11 (by decide)
  revert once
  decide

end Dressage.Rollout.Prewarm

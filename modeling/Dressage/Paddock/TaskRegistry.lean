/-
The registry of lifecycle tasks.

A task that was tracked and has not ended is in the set that the registry has for
the loop, and a drain returns when that entry is gone. The entry also goes when
the set becomes empty; a drain that wakes up after that, with the old set in its
hand, takes away the entry that later tasks have made.
-/

import Dressage.Paddock.BlackboxPaddock

namespace Dressage.Paddock

/-- The drain wakes with an old set, all of whose tasks it has gathered, while the loop's entry
is a later set with a pending task. -/
def TakesLaterEntry (state : BlackboxAgentPaddock) : DrainPhase → Prop
  | .waiting set tasks =>
    tasks.all state.isDone = true ∧
      (∀ task ∈ state.tasksOf set, task ∈ tasks ∧ state.isDone task = true) ∧
      ∃ later ∈ state.current, later ≠ set ∧ ∃ task ∈ state.tasksOf later, state.isDone task = false
  | .returned _ => False

instance (state : BlackboxAgentPaddock) : DecidablePred (TakesLaterEntry state)
  | .waiting set tasks => inferInstanceAs (Decidable (tasks.all state.isDone = true ∧
    (∀ task ∈ state.tasksOf set, task ∈ tasks ∧ state.isDone task = true) ∧
    ∃ later ∈ state.current, later ≠ set ∧ ∃ task ∈ state.tasksOf later, state.isDone task = false))
  | .returned _ => inferInstanceAs (Decidable False)

def DrainsHold (state : BlackboxAgentPaddock) : Prop :=
  ∀ pending, DrainPhase.returned pending ∈ state.drains → pending = []

def ReleasesExist (tasks : List Task) : Prop :=
  ∀ task ∈ tasks, ∀ release, task.status = .waitingRelease release → release < tasks.length

open List Option BlackboxAgentPaddock

theorem ReleasesExist.of_known {before after : List Task} (exist : ReleasesExist before)
    (longer : before.length ≤ after.length)
    (known : ∀ task ∈ after, (∃ old ∈ before, old.status = task.status) ∨
      ∀ release, task.status = .waitingRelease release → release < after.length) :
    ReleasesExist after := by
  intro task member release waiting
  rcases known task member with ⟨old, present, same⟩ | new
  · exact Nat.lt_of_lt_of_le (exist old present release (same.trans waiting)) longer
  · exact new release waiting

variable {tasks : List Task} {task : TaskId} {state after : BlackboxAgentPaddock} {set : SetId}
variable {entry : Task}

theorem mem_modify {index : TaskId} {change : Task → Task} {task : Task}
    (member : task ∈ tasks.modify index change) :
    ∃ old ∈ tasks, task = old ∨ task = change old := by
  obtain ⟨number, found⟩ := mem_iff_getElem?.mp member
  rw [getElem?_modify] at found
  obtain ⟨old, before, same⟩ := map_eq_some_iff.mp found
  refine ⟨old, mem_of_getElem? before, ?_⟩
  rw [← same]
  split
  · exact .inr rfl
  · exact .inl rfl

theorem ReleasesExist.modify (exist : ReleasesExist tasks) (index : TaskId) {change : Task → Task}
    (fresh : ∀ task release, (change task).status = .waitingRelease release →
      task.status = .waitingRelease release) : ReleasesExist (tasks.modify index change) := by
  intro task member release waiting
  rw [length_modify]
  obtain ⟨old, present, rfl | rfl⟩ := mem_modify member
  · exact exist task present release waiting
  · exact exist old present release (fresh old release waiting)

theorem ReleasesExist.append (exist : ReleasesExist tasks) {added : Task}
    (fresh : ∀ release, added.status ≠ .waitingRelease release) :
    ReleasesExist (tasks ++ [added]) := by
  apply exist.of_known
  · simp
  · intro task member
    rcases mem_append.mp member with old | new
    · exact .inl ⟨task, old, rfl⟩
    · refine .inr (fun release waiting => ?_)
      rw [mem_singleton.mp new] at waiting
      exact absurd waiting (fresh release)

structure Registered (state : BlackboxAgentPaddock) : Prop where
  pendingIn : ∀ (task : TaskId) (entry : Task), state.tasks[task]? = some entry →
    entry.tracked = true → entry.status ≠ .done →
      ∃ set, state.current = some set ∧ task ∈ state.tasksOf set
  currentIn : ∀ set, state.current = some set → set < state.sets.length ∧ state.tasksOf set ≠ []
  detached : ∀ set, state.current ≠ some set → ∀ task ∈ state.tasksOf set, state.isDone task = true
  members : ∀ set, ∀ task ∈ state.tasksOf set,
    ∃ entry, state.tasks[task]? = some entry ∧ entry.tracked = true
  releases : ReleasesExist state.tasks
  settled : DrainsHold state

theorem registered_initial (waitHealth : Bool) :
    Registered (initial waitHealth) := by
  constructor
  · intro task entry impossible
    cases impossible
  · intro set impossible
    cases impossible
  · intro set _ task impossible
    cases impossible
  · intro set task impossible
    cases impossible
  · intro task impossible
    cases impossible
  · intro pending impossible
    cases impossible

theorem isDone_iff :
    state.isDone task = true ↔ ∃ entry, state.tasks[task]? = some entry ∧ entry.status = .done := by
  unfold isDone
  cases state.tasks[task]? <;> simp

theorem mem_pending :
    task ∈ state.pending ↔ ∃ entry, state.tasks[task]? = some entry ∧ entry.tracked = true ∧
      entry.status ≠ .done := by
  unfold pending
  rw [mem_filter, mem_range]
  constructor
  · rintro ⟨_, accepted⟩
    cases found : state.tasks[task]? with
    | none =>
      rw [found] at accepted
      cases accepted
    | some entry =>
      rw [found] at accepted
      exact ⟨entry, rfl, by simpa using accepted⟩
  · rintro ⟨entry, found, tracked, running⟩
    refine ⟨(List.getElem_of_getElem? found).1, ?_⟩
    rw [found]
    simp [tracked, running]

theorem pending_eq_nil_iff :
    state.pending = [] ↔ ∀ (task : TaskId) (entry : Task), state.tasks[task]? = some entry →
      entry.tracked = true → entry.status = .done := by
  rw [eq_nil_iff_forall_not_mem]
  constructor
  · intro none task entry found tracked
    by_contra running
    exact none task (mem_pending.mpr ⟨entry, found, tracked, running⟩)
  · intro all task member
    obtain ⟨entry, found, tracked, running⟩ := mem_pending.mp member
    exact running (all task entry found tracked)

theorem tasksOf_modify (present : set < state.sets.length) (change : List TaskId → List TaskId)
    (other : SetId) :
    (state.sets.modify set change).getD other [] =
      if other = set then change (state.tasksOf set) else state.tasksOf other := by
  unfold tasksOf
  simp only [getD_eq_getElem?_getD]
  by_cases same : other = set
  · subst same
    rw [if_pos rfl, getElem?_modify_eq, getElem?_eq_getElem present]
    rfl
  · rw [if_neg same, getElem?_modify_ne _ _ (Ne.symm same)]

structure TasksGrow (before after : List Task) : Prop where
  kept : ∀ (task : TaskId) (entry : Task), before[task]? = some entry →
    ∃ later, after[task]? = some later ∧ later.tracked = entry.tracked ∧
      (entry.status = .done → later.status = .done)
  old : ∀ (task : TaskId) (later : Task), after[task]? = some later → later.tracked = true →
    ∃ entry, before[task]? = some entry

theorem TasksGrow.trans {first second third : List Task} (left : TasksGrow first second)
    (right : TasksGrow second third) : TasksGrow first third := by
  constructor
  · intro task entry found
    obtain ⟨later, atLater, tracked, done⟩ := left.kept task entry found
    obtain ⟨last, atLast, tracked', done'⟩ := right.kept task later atLater
    exact ⟨last, atLast, tracked'.trans tracked, fun ended => done' (done ended)⟩
  · intro task last found tracked
    obtain ⟨later, atLater⟩ := right.old task last found tracked
    obtain ⟨same, atSame, tracked', _⟩ := right.kept task later atLater
    rw [found, some_inj] at atSame
    rw [atSame, tracked'] at tracked
    exact left.old task later atLater tracked

theorem tasksGrow_setStatus (found : state.tasks[task]? = some entry)
    (running : entry.status ≠ .done) (status : TaskStatus) :
    TasksGrow state.tasks (state.setStatus task status).tasks := by
  constructor
  · intro other before present
    by_cases same : other = task
    · subst same
      rw [found, some_inj] at present
      subst present
      refine ⟨{ entry with status := status }, ?_, rfl, fun ended => absurd ended running⟩
      change (state.tasks.modify other _)[other]? = _
      rw [getElem?_modify_eq, found]
      rfl
    · refine ⟨before, ?_, rfl, fun ended => ended⟩
      change (state.tasks.modify task _)[other]? = _
      rw [getElem?_modify_ne _ _ (Ne.symm same), present]
  · intro other later present _
    change (state.tasks.modify task _)[other]? = some later at present
    rw [getElem?_modify] at present
    cases before : state.tasks[other]? with
    | none =>
      rw [before] at present
      cases present
    | some entry => exact ⟨entry, rfl⟩

theorem tasksGrow_append (tasks : List Task) {added : Task} (untracked : added.tracked = false) :
    TasksGrow tasks (tasks ++ [added]) := by
  constructor
  · intro task entry found
    refine ⟨entry, ?_, rfl, fun ended => ended⟩
    rw [getElem?_append_left (List.getElem_of_getElem? found).1, found]
  · intro task later found tracked
    rcases Nat.lt_or_ge task tasks.length with lower | upper
    · exact ⟨_, getElem?_eq_getElem lower⟩
    · rw [getElem?_append_right upper] at found
      rw [mem_singleton.mp (mem_of_getElem? found), untracked] at tracked
      cases tracked

theorem TasksGrow.isDone (grow : TasksGrow state.tasks after.tasks)
    (done : state.isDone task = true) :
    after.isDone task = true := by
  obtain ⟨entry, found, ended⟩ := isDone_iff.mp done
  obtain ⟨later, atLater, _, stays⟩ := grow.kept task entry found
  exact isDone_iff.mpr ⟨later, atLater, stays ended⟩

theorem Registered.grow (registered : Registered state) (grow : TasksGrow state.tasks after.tasks)
    (releases : ReleasesExist after.tasks) (sets : after.sets = state.sets)
    (current : after.current = state.current) (drains : after.drains = state.drains) :
    Registered after := by
  have same : ∀ set, after.tasksOf set = state.tasksOf set := by
    intro set
    unfold tasksOf
    rw [sets]
  constructor
  · intro task later found tracked running
    obtain ⟨entry, before⟩ := grow.old task later found tracked
    obtain ⟨again, atLater, sameTracked, stays⟩ := grow.kept task entry before
    rw [found, some_inj] at atLater
    subst atLater
    obtain ⟨set, isCurrent, member⟩ := registered.pendingIn task entry before
      (sameTracked ▸ tracked) (fun ended => running (stays ended))
    exact ⟨set, by rw [current, isCurrent], by rw [same]; exact member⟩
  · intro set isCurrent
    rw [current] at isCurrent
    rw [sets, same]
    exact registered.currentIn set isCurrent
  · intro set notCurrent task member
    rw [current] at notCurrent
    rw [same] at member
    exact grow.isDone (registered.detached set notCurrent task member)
  · intro set task member
    rw [same] at member
    obtain ⟨entry, found, tracked⟩ := registered.members set task member
    obtain ⟨later, atLater, sameTracked, _⟩ := grow.kept task entry found
    exact ⟨later, atLater, sameTracked.trans tracked⟩
  · exact releases
  · intro pending returned
    rw [drains] at returned
    exact registered.settled pending returned

theorem track_tasks (state : BlackboxAgentPaddock) (task : TaskId) :
    (state.track task).tasks =
      state.tasks.modify task (fun entry => { entry with tracked := true }) := by
  unfold track
  cases state.current <;> rfl

theorem track_found (found : state.tasks[task]? = some entry) (tracked : TaskId) :
    ∃ after, (state.track tracked).tasks[task]? = some after ∧ after.status = entry.status := by
  refine ⟨if tracked = task then { entry with tracked := true } else entry, ?_, ?_⟩
  · rw [track_tasks, getElem?_modify, found]
    split <;> rfl
  · split <;> rfl

theorem schedule_tasks (state : BlackboxAgentPaddock) (kind : TaskKind) :
    (state.schedule kind).tasks = state.tasks ++
      [{ kind := kind
         status := .created
         tracked := true }] := by
  unfold schedule
  rw [track_tasks]
  apply ext_getElem?
  intro index
  rw [getElem?_modify]
  rcases Nat.lt_trichotomy index state.tasks.length with lower | same | upper
  · rw [getElem?_append_left lower, getElem?_append_left lower]
    simp only [if_neg (Nat.ne_of_gt lower)]
    exact id_map _
  · subst same
    simp
  · rw [getElem?_append_right (Nat.le_of_lt upper),
      getElem?_append_right (Nat.le_of_lt upper),
      getElem?_eq_none (Nat.sub_pos_of_lt upper),
      getElem?_eq_none (Nat.sub_pos_of_lt upper)]
    rfl

section

variable (registered : Registered state)

include registered

theorem Registered.track (present : task < state.tasks.length) : Registered (state.track task) := by
  have tasks := track_tasks state task
  have drains : (state.track task).drains = state.drains := by
    unfold BlackboxAgentPaddock.track
    cases state.current <;> rfl
  obtain ⟨set, isCurrent, within, here, elsewhere⟩ :
      ∃ set, (state.track task).current = some set ∧ set < (state.track task).sets.length ∧
        (∀ other, other ∈ (state.track task).tasksOf set ↔
          other = task ∨ state.current = some set ∧ other ∈ state.tasksOf set) ∧
        ∀ other, other ≠ set → (state.track task).tasksOf other = state.tasksOf other ∧
          state.current ≠ some other := by
    unfold BlackboxAgentPaddock.track tasksOf
    cases current : state.current with
    | none =>
      refine ⟨state.sets.length, rfl, ?_, ?_, ?_⟩
      · rw [length_append]
        exact Nat.lt_succ_self _
      · intro other
        simp [getD_eq_getElem?_getD]
      · intro other different
        refine ⟨?_, by simp⟩
        simp only [getD_eq_getElem?_getD]
        rcases Nat.lt_or_ge other state.sets.length with lower | upper
        · rw [getElem?_append_left lower]
        · rw [getElem?_append_right upper, getElem?_eq_none upper]
          have beyond : 1 ≤ other - state.sets.length := by
            have := Nat.lt_of_le_of_ne upper (Ne.symm different)
            exact Nat.sub_pos_of_lt this
          rw [getElem?_eq_none beyond]
    | some set =>
      have within := (registered.currentIn set current).1
      refine ⟨set, rfl, ?_, ?_, ?_⟩
      · rw [length_modify]
        exact within
      · intro other
        have inside := tasksOf_modify within (fun tasks => tasks.insert task) set
        simp only [if_true] at inside
        rw [inside, mem_insert_iff]
        simp [tasksOf]
      · intro other different
        have outside := tasksOf_modify within (fun tasks => tasks.insert task) other
        rw [if_neg different] at outside
        exact ⟨outside, fun same => different (some_inj.mp same).symm⟩
  have entries : ∀ (other : TaskId) (later : Task), (state.track task).tasks[other]? = some later →
      ∃ entry, state.tasks[other]? = some entry ∧ later.status = entry.status ∧
        (other ≠ task → later.tracked = entry.tracked) := by
    intro other later found
    rw [tasks, getElem?_modify] at found
    obtain ⟨entry, before, rfl⟩ := map_eq_some_iff.mp found
    refine ⟨entry, before, ?_, ?_⟩
    · split <;> rfl
    · intro different
      rw [if_neg (Ne.symm different)]
  have done : ∀ other, state.isDone other = true → (state.track task).isDone other = true := by
    intro other ended
    obtain ⟨entry, before, isDone⟩ := isDone_iff.mp ended
    refine isDone_iff.mpr ⟨if task = other then { entry with tracked := true } else entry, ?_, ?_⟩
    · rw [tasks, getElem?_modify, before]
      split <;> rfl
    · split <;> exact isDone
  constructor
  · intro other later found tracked running
    by_cases same : other = task
    · exact ⟨set, isCurrent, (here other).mpr (.inl same)⟩
    · obtain ⟨entry, before, status, stays⟩ := entries other later found
      obtain ⟨old, wasCurrent, member⟩ := registered.pendingIn other entry before
        (stays same ▸ tracked) (status ▸ running)
      by_cases sameSet : old = set
      · subst sameSet
        exact ⟨old, isCurrent, (here other).mpr (.inr ⟨wasCurrent, member⟩)⟩
      · exact absurd wasCurrent (elsewhere old sameSet).2
  · intro other otherCurrent
    rw [isCurrent, some_inj] at otherCurrent
    subst otherCurrent
    exact ⟨within, ne_nil_of_mem ((here task).mpr (.inl rfl))⟩
  · intro other notCurrent another member
    have different : other ≠ set := fun same => notCurrent (same ▸ isCurrent)
    rw [(elsewhere other different).1] at member
    exact done another (registered.detached other (elsewhere other different).2 another member)
  · intro other another member
    have known : ∃ entry, state.tasks[another]? = some entry ∧
        (another = task ∨ entry.tracked = true) := by
      by_cases sameSet : other = set
      · subst sameSet
        rcases (here another).mp member with rfl | ⟨_, old⟩
        · exact ⟨_, getElem?_eq_getElem present, .inl rfl⟩
        · obtain ⟨entry, found, tracked⟩ := registered.members other another old
          exact ⟨entry, found, .inr tracked⟩
      · rw [(elsewhere other sameSet).1] at member
        obtain ⟨entry, found, tracked⟩ := registered.members other another member
        exact ⟨entry, found, .inr tracked⟩
    obtain ⟨entry, found, new⟩ := known
    refine ⟨if task = another then { entry with tracked := true } else entry, ?_, ?_⟩
    · rw [tasks, getElem?_modify, found]
      split <;> rfl
    · split
      · rfl
      · next different =>
          rcases new with same | tracked
          · exact absurd same.symm different
          · exact tracked
  · rw [tasks]
    exact registered.releases.modify task (fun _ _ waiting => waiting)
  · intro pending returned
    rw [drains] at returned
    exact registered.settled pending returned

theorem Registered.discard (task : TaskId) : Registered (state.discard task) := by
  unfold BlackboxAgentPaddock.discard
  split
  · next ended =>
      split
      · exact registered
      · next set current =>
          have within := (registered.currentIn set current).1
          have erased := tasksOf_modify within (fun tasks => tasks.erase task)
          refine { registered with pendingIn := ?_, currentIn := ?_, detached := ?_, members := ?_ }
          · intro other entry found tracked running
            obtain ⟨old, wasCurrent, member⟩ :=
              registered.pendingIn other entry found tracked running
            rw [current, some_inj] at wasCurrent
            subst wasCurrent
            have different : other ≠ task := by
              intro same
              subst same
              obtain ⟨again, atOther, done⟩ := isDone_iff.mp ended
              rw [found, some_inj] at atOther
              exact running (atOther ▸ done)
            have stays : other ∈ (state.tasksOf set).erase task :=
              (mem_erase_of_ne different).mpr member
            refine ⟨set, if_neg (ne_nil_of_mem stays), ?_⟩
            change other ∈ (state.sets.modify set _).getD set []
            rw [erased, if_pos rfl]
            exact stays
          · intro other isCurrent
            by_cases empty : (state.tasksOf set).erase task = []
            · rw [if_pos empty] at isCurrent
              cases isCurrent
            · rw [if_neg empty, some_inj] at isCurrent
              subst isCurrent
              refine ⟨by rw [length_modify]; exact within, ?_⟩
              change (state.sets.modify set _).getD set [] ≠ []
              rw [erased, if_pos rfl]
              exact empty
          · intro other notCurrent another member
            change another ∈ (state.sets.modify set _).getD other [] at member
            rw [erased] at member
            by_cases same : other = set
            · subst same
              rw [if_pos rfl] at member
              exact absurd (if_neg (ne_nil_of_mem member)) notCurrent
            · rw [if_neg same] at member
              refine registered.detached other ?_ another member
              intro isCurrent
              rw [current, some_inj] at isCurrent
              exact same isCurrent.symm
          · intro other another member
            change another ∈ (state.sets.modify set _).getD other [] at member
            rw [erased] at member
            by_cases same : other = set
            · subst same
              rw [if_pos rfl] at member
              exact registered.members other another (mem_of_mem_erase member)
            · rw [if_neg same] at member
              exact registered.members other another member
  · exact registered

theorem Registered.drainPhase {pending : List TaskId}
    (returns : state.drainPhase = .returned pending) : pending = [] := by
  unfold BlackboxAgentPaddock.drainPhase at returns
  split at returns
  · next none =>
      injection returns with same
      rw [← same, pending_eq_nil_iff]
      intro task entry found tracked
      by_contra running
      obtain ⟨set, isCurrent, _⟩ := registered.pendingIn task entry found tracked running
      rw [none] at isCurrent
      cases isCurrent
  · next set isCurrent =>
      rw [if_neg (registered.currentIn set isCurrent).2] at returns
      cases returns

theorem Registered.drains {drains : List DrainPhase}
    (settled : ∀ pending, .returned pending ∈ drains → pending = []) :
    Registered { state with drains := drains } :=
  ⟨registered.pendingIn, registered.currentIn, registered.detached, registered.members,
    registered.releases, settled⟩

theorem Registered.beginDrain : Registered state.beginDrain := by
  apply registered.drains
  intro pending member
  rcases mem_append.mp member with old | new
  · exact registered.settled pending old
  · exact registered.drainPhase (mem_singleton.mp new).symm

end

theorem mem_tasksOf_afterGather {tasks : List TaskId} {other : SetId}
    (member : task ∈ (state.afterGather set tasks).tasksOf other) : task ∈ state.tasksOf other := by
  unfold afterGather tasksOf at member
  simp only [getD_eq_getElem?_getD] at member
  by_cases same : other = set
  · subst same
    rcases Nat.lt_or_ge other state.sets.length with lower | upper
    · rw [getElem?_modify_eq, getElem?_eq_getElem lower] at member
      unfold tasksOf
      rw [getD_eq_getElem?_getD, getElem?_eq_getElem lower]
      exact (mem_filter.mp member).1
    · rw [getElem?_modify_eq, getElem?_eq_none upper] at member
      cases member
  · rw [getElem?_modify_ne _ _ (Ne.symm same)] at member
    unfold tasksOf
    rw [getD_eq_getElem?_getD]
    exact member

theorem mem_afterGather (tasks : List TaskId) (present : set < state.sets.length)
    (member : task ∈ state.tasksOf set) (running : state.isDone task = false) :
    task ∈ (state.afterGather set tasks).tasksOf set ∧
      (state.afterGather set tasks).current = state.current := by
  have stays : task ∈ (state.tasksOf set).filter (fun task =>
      !(tasks.contains task && state.isDone task)) := by
    rw [mem_filter]
    exact ⟨member, by simp [running]⟩
  constructor
  · change task ∈ (state.sets.modify set _).getD set []
    rw [tasksOf_modify present, if_pos rfl]
    exact stays
  · exact if_neg (ne_nil_of_mem stays)

theorem gathered_of_afterGather {tasks : List TaskId} {later : SetId}
    (isCurrent : state.current = some later)
    (gone : (state.afterGather set tasks).current = none) :
    ∀ task ∈ state.tasksOf set, task ∈ tasks ∧ state.isDone task = true := by
  unfold afterGather at gone
  simp only [isCurrent] at gone
  split at gone
  · next empty =>
      intro task member
      simpa using filter_eq_nil_iff.mp empty task member
  · cases gone

theorem Registered.afterGather (registered : Registered state) {tasks : List TaskId}
    (ended : tasks.all state.isDone = true)
    (stays : ¬ TakesLaterEntry state (.waiting set tasks)) :
    Registered (state.afterGather set tasks) := by
  have running : ∀ {task : TaskId} {entry : Task}, state.tasks[task]? = some entry →
      entry.status ≠ .done → state.isDone task = false := by
    intro task entry found notDone
    rw [← Bool.not_eq_true, isDone_iff]
    rintro ⟨again, atTask, done⟩
    rw [found, some_inj] at atTask
    exact notDone (atTask ▸ done)
  have kept : (state.afterGather set tasks).current = none ∨
      (state.afterGather set tasks).current = state.current := by
    unfold BlackboxAgentPaddock.afterGather
    simp only
    split
    · exact .inl rfl
    · exact .inr rfl
  have elsewhere : ∀ other, other ≠ set →
      (state.afterGather set tasks).tasksOf other = state.tasksOf other := by
    intro other different
    unfold BlackboxAgentPaddock.afterGather tasksOf
    simp only [getD_eq_getElem?_getD]
    rw [getElem?_modify_ne _ _ (Ne.symm different)]
  refine { registered with pendingIn := ?_, currentIn := ?_, detached := ?_, members := ?_ }
  · intro task entry found tracked notDone
    obtain ⟨old, isCurrent, member⟩ := registered.pendingIn task entry found tracked notDone
    have unfinished := running found notDone
    by_cases same : old = set
    · subst same
      have both := mem_afterGather tasks (registered.currentIn old isCurrent).1 member unfinished
      exact ⟨old, both.2.trans isCurrent, both.1⟩
    · refine ⟨old, ?_, by rw [elsewhere old same]; exact member⟩
      rcases kept with gone | stayed
      · exact absurd ⟨ended, gathered_of_afterGather isCurrent gone, old, isCurrent, same, task,
          member, unfinished⟩ stays
      · exact stayed.trans isCurrent
  · intro other isCurrent
    rcases kept with gone | stayed
    · rw [gone] at isCurrent
      cases isCurrent
    · have before := registered.currentIn other (stayed.symm.trans isCurrent)
      refine ⟨by
        change other < (state.sets.modify set _).length
        rw [length_modify]
        exact before.1, ?_⟩
      by_cases same : other = set
      · subst same
        change (state.sets.modify other _).getD other [] ≠ []
        rw [tasksOf_modify before.1, if_pos rfl]
        intro empty
        have gone : (state.afterGather other tasks).current = none := if_pos empty
        rw [gone] at isCurrent
        cases isCurrent
      · rw [elsewhere other same]
        exact before.2
  · intro other notCurrent task member
    by_cases wasCurrent : state.current = some other
    · rcases kept with gone | stayed
      · rw [← Bool.not_eq_false]
        intro unfinished
        have before := mem_tasksOf_afterGather member
        by_cases same : other = set
        · subst same
          have both := mem_afterGather tasks
            (registered.currentIn other wasCurrent).1 before unfinished
          rw [gone, wasCurrent] at both
          cases both.2
        · exact stays ⟨ended, gathered_of_afterGather wasCurrent gone, other, wasCurrent, same,
            task, before, unfinished⟩
      · exact absurd (stayed.trans wasCurrent) notCurrent
    · exact registered.detached other wasCurrent task (mem_tasksOf_afterGather member)
  · intro other task member
    exact registered.members other task (mem_tasksOf_afterGather member)

theorem Registered.wakeDrain (registered : Registered state) {drain : Nat}
    (stays : ∀ phase ∈ state.drains[drain]?, ¬ TakesLaterEntry state phase) :
    Registered (state.wakeDrain drain) := by
  unfold BlackboxAgentPaddock.wakeDrain
  split
  · next set tasks waiting =>
      split
      · next ended =>
          have after := registered.afterGather ended (stays _ waiting)
          apply after.drains
          intro pending member
          rcases mem_or_eq_of_mem_set member with old | new
          · exact after.settled pending old
          · exact after.drainPhase new.symm
      · exact registered
  · exact registered

theorem TasksGrow.refl (tasks : List Task) : TasksGrow tasks tasks :=
  ⟨fun _ entry found => ⟨entry, found, rfl, fun ended => ended⟩,
    fun _ later found _ => ⟨later, found⟩⟩

section

variable (registered : Registered state)

include registered

theorem Registered.of_same (tasks : after.tasks = state.tasks) (sets : after.sets = state.sets)
    (current : after.current = state.current) (drains : after.drains = state.drains) :
    Registered after :=
  registered.grow (tasks ▸ TasksGrow.refl state.tasks) (tasks ▸ registered.releases)
    sets current drains

theorem Registered.schedule (kind : TaskKind) : Registered (state.schedule kind) := by
  unfold BlackboxAgentPaddock.schedule
  have created : Registered { state with
      tasks := state.tasks ++
        [{ kind := kind
           status := .created
           tracked := false }] } :=
    registered.grow (tasksGrow_append state.tasks rfl)
      (registered.releases.append (fun _ => nofun)) rfl rfl rfl
  apply created.track
  simp

section

variable (found : state.tasks[task]? = some entry)
include found

section

variable (running : entry.status ≠ .done)
include running

theorem Registered.setStatus {status : TaskStatus}
    (fresh : ∀ release, status ≠ .waitingRelease release) :
    Registered (state.setStatus task status) := by
  apply registered.grow (tasksGrow_setStatus found running status)
  · apply registered.releases.modify
    exact fun _ release waiting => absurd waiting (fresh release)
  · rfl
  · rfl
  · rfl

theorem Registered.terminateLease (number : InitId) :
    Registered (state.terminateLease task number) := by
  have longer : (state.terminateLease task number).tasks.length = state.tasks.length + 1 := by
    change (state.tasks.modify task _ ++ [_]).length = _
    rw [length_append, length_modify]
    rfl
  apply registered.grow ((tasksGrow_setStatus found running _).trans (tasksGrow_append _ rfl))
  · apply registered.releases.of_known
    · rw [longer]
      exact Nat.le_succ _
    · intro other member
      rcases mem_append.mp member with old | new
      · obtain ⟨before, present, rfl | rfl⟩ := mem_modify old
        · exact .inl ⟨other, present, rfl⟩
        · refine .inr (fun release waiting => ?_)
          injection waiting with same
          rw [longer, ← same]
          exact Nat.lt_succ_self _
      · refine .inr (fun release waiting => ?_)
        rw [mem_singleton.mp new] at waiting
        cases waiting
  · rfl
  · rfl
  · rfl

theorem Registered.followCreate (number : InitId) :
    Registered (state.followCreate task number) := by
  unfold BlackboxAgentPaddock.followCreate
  split
  · exact registered.setStatus found running (fun _ => nofun)
  · exact registered.setStatus found running (fun _ => nofun)
  · exact registered.terminateLease found running number
  · exact registered.setStatus found running (fun _ => nofun)
  · exact registered.setStatus found running (fun _ => nofun)

end

theorem Registered.leaveRelease {release : TaskId}
    (waiting : entry.status = .waitingRelease release) :
    Registered ((state.track release).setStatus task .done) := by
  have present := registered.releases entry (mem_of_getElem? found) release waiting
  obtain ⟨_, after, same⟩ := track_found found release
  apply (registered.track present).setStatus after
  · intro done
    rw [same, waiting] at done
    cases done
  · exact fun _ => nofun

end

theorem Registered.startTask (task : TaskId) : Registered (state.startTask task) := by
  unfold BlackboxAgentPaddock.startTask
  split
  · next found => exact registered.followCreate found nofun _
  · next found => exact registered.terminateLease found nofun _
  · next found =>
      have begun : Registered (state.setStatus task .releasing) :=
        registered.setStatus found nofun (fun _ => nofun)
      exact begun.of_same rfl rfl rfl rfl
  · exact registered

theorem Registered.resumeTask (task : TaskId) : Registered (state.resumeTask task) := by
  unfold BlackboxAgentPaddock.resumeTask
  split
  · next found => exact registered.followCreate found nofun _
  · next found =>
      split
      · exact registered.setStatus found nofun (fun _ => nofun)
      · exact registered
  · next found => exact registered.setStatus found nofun (fun _ => nofun)
  · exact registered

theorem Registered.timeOutTask (task : TaskId) : Registered (state.timeOutTask task) := by
  unfold BlackboxAgentPaddock.timeOutTask
  split
  · next found => exact registered.leaveRelease found rfl
  · exact registered

theorem Registered.cancelTask (task : TaskId) : Registered (state.cancelTask task) := by
  unfold BlackboxAgentPaddock.cancelTask
  split
  · exact registered
  · next kind status tracked found =>
      cases status with
      | created | releasing => exact registered.setStatus found nofun (fun _ => nofun)
      | waitingCreate => exact registered
      | waitingRelease release => exact registered.leaveRelease found rfl
      | done => exact registered

variable (number : InitId)

theorem Registered.giveUp (trajectoryId : String) (phase : InitPhase) :
    Registered (state.giveUp number trajectoryId phase) :=
  (registered.schedule (.leaseCleanup number)).of_same rfl rfl rfl rfl

theorem Registered.followUp (phase : InitPhase) :
    Registered ((state.schedule (.createCleanup number)).setPhase number phase) :=
  (registered.schedule (.createCleanup number)).of_same rfl rfl rfl rfl

theorem Registered.check (trajectoryId : String) :
    Registered (state.check number trajectoryId) := by
  unfold BlackboxAgentPaddock.check
  split <;> exact registered.of_same rfl rfl rfl rfl

theorem Registered.resumeInit (succeeded : Bool) :
    Registered (state.resumeInit number succeeded) := by
  unfold BlackboxAgentPaddock.resumeInit
  split
  · exact registered
  · next init found =>
      split
      · split
        · exact registered.giveUp number _ _
        · split
          · exact registered.check number _
          · exact registered.of_same rfl rfl rfl rfl
      · exact registered.of_same rfl rfl rfl rfl
      · exact registered.followUp number _
      · split
        · exact registered.check number _
        · exact registered.giveUp number _ _
      · split
        · exact registered.of_same rfl rfl rfl rfl
        · exact registered.giveUp number _ _
      · split
        · exact registered.of_same rfl rfl rfl rfl
        · exact registered
      · exact registered

theorem Registered.cancelInit : Registered (state.cancelInit number) := by
  unfold BlackboxAgentPaddock.cancelInit
  split
  · exact registered
  · split
    · exact registered.followUp number _
    · exact registered.giveUp number _ _
    · exact registered.giveUp number _ _
    · exact registered.of_same rfl rfl rfl rfl
    · exact registered
    · exact registered

theorem Registered.step {event : Event}
    (stays : ∀ drain, event = .wakeDrain drain →
      ∀ phase ∈ state.drains[drain]?, ¬ TakesLaterEntry state phase) :
    Registered (step state event) := by
  cases event with
  | startInit trajectoryId =>
    unfold Paddock.step startInit
    simp only
    split
    · exact registered
    · exact registered.of_same rfl rfl rfl rfl
  | endCreate number answer =>
    unfold Paddock.step endCreate
    simp only
    split
    · exact registered.of_same rfl rfl rfl rfl
    · exact registered
  | resumeInit number succeeded => exact registered.resumeInit number succeeded
  | cancelInit number => exact registered.cancelInit number
  | terminate trajectoryId =>
    unfold Paddock.step terminate
    simp only
    split <;> exact registered.of_same rfl rfl rfl rfl
  | startTask task => exact registered.startTask task
  | resumeTask task => exact registered.resumeTask task
  | timeOutTask task => exact registered.timeOutTask task
  | cancelTask task => exact registered.cancelTask task
  | discard task => exact registered.discard task
  | beginDrain => exact registered.beginDrain
  | wakeDrain drain => exact registered.wakeDrain (stays drain rfl)

end

/-- A task that nobody tracks is a release that a tracked cleanup waits for, or has ended. -/
structure Held (state : BlackboxAgentPaddock) : Prop where
  releases : ∀ task ∈ state.tasks, task.tracked = false → ∃ number, task.kind = .release number
  waitedFor : ∀ (task : TaskId) (entry : Task), state.tasks[task]? = some entry →
    entry.tracked = false → entry.status ≠ .done →
      ∃ (cleanup : TaskId) (waiting : Task), state.tasks[cleanup]? = some waiting ∧
        waiting.tracked = true ∧ waiting.status = .waitingRelease task

theorem held_initial (waitHealth : Bool) : Held (initial waitHealth) := by
  constructor
  · intro task impossible
    cases impossible
  · intro task entry impossible
    cases impossible

section

variable (held : Held state)

include held

theorem Held.tracked (found : state.tasks[task]? = some entry)
    (cleanup : ∀ number, entry.kind ≠ .release number) : entry.tracked = true := by
  rw [← Bool.not_eq_false]
  intro untracked
  obtain ⟨number, release⟩ := held.releases entry (mem_of_getElem? found) untracked
  exact cleanup number release

theorem Held.of_same (tasks : after.tasks = state.tasks) : Held after :=
  ⟨tasks ▸ held.releases, tasks ▸ held.waitedFor⟩

theorem Held.setStatus (found : state.tasks[task]? = some entry)
    (running : entry.status ≠ .done) {status : TaskStatus}
    (leaves : ∀ release, entry.status = .waitingRelease release →
      ∀ other, state.tasks[release]? = some other → other.status = .done ∨ other.tracked = true) :
    Held (state.setStatus task status) := by
  have tasks : (state.setStatus task status).tasks =
    state.tasks.modify task (fun current => { current with status := status }) := rfl
  constructor
  · intro other member untracked
    rw [tasks] at member
    obtain ⟨old, present, rfl | rfl⟩ := mem_modify member
    · exact held.releases other present untracked
    · exact held.releases old present untracked
  · intro other later after untracked unfinished
    rw [tasks, getElem?_modify] at after
    obtain ⟨old, before, rfl⟩ := map_eq_some_iff.mp after
    have wasUntracked : old.tracked = false := by
      split at untracked <;> exact untracked
    have wasRunning : old.status ≠ .done := by
      by_cases same : task = other
      · subst same
        rw [found, some_inj] at before
        exact before ▸ running
      · rw [if_neg same] at unfinished
        exact unfinished
    obtain ⟨cleanup, waiting, present, tracked, waits⟩ :=
      held.waitedFor other old before wasUntracked wasRunning
    have different : task ≠ cleanup := by
      rintro rfl
      rw [found, some_inj] at present
      subst present
      rcases leaves other waits old before with ended | isTracked
      · exact wasRunning ended
      · rw [isTracked] at wasUntracked
        cases wasUntracked
    refine ⟨cleanup, waiting, ?_, tracked, waits⟩
    rw [tasks, getElem?_modify_ne _ _ different]
    exact present

theorem Held.track (task : TaskId) : Held (state.track task) := by
  constructor
  · intro other member untracked
    rw [track_tasks] at member
    obtain ⟨old, present, rfl | rfl⟩ := mem_modify member
    · exact held.releases other present untracked
    · cases untracked
  · intro other later after untracked unfinished
    rw [track_tasks, getElem?_modify] at after
    obtain ⟨old, before, rfl⟩ := map_eq_some_iff.mp after
    by_cases same : task = other
    · rw [if_pos same] at untracked
      cases untracked
    · rw [if_neg same] at untracked unfinished
      obtain ⟨cleanup, waiting, present, tracked, waits⟩ :=
        held.waitedFor other old before untracked unfinished
      refine ⟨cleanup, if task = cleanup then { waiting with tracked := true } else waiting,
        ?_, ?_, ?_⟩
      · rw [track_tasks, getElem?_modify, present]
        split <;> rfl
      · split
        · rfl
        · exact tracked
      · split <;> exact waits

theorem Held.schedule (kind : TaskKind) : Held (state.schedule kind) := by
  constructor
  · intro other member untracked
    rw [schedule_tasks] at member
    rcases mem_append.mp member with old | new
    · exact held.releases other old untracked
    · rw [mem_singleton.mp new] at untracked
      cases untracked
  · intro other later after untracked unfinished
    rw [schedule_tasks] at after ⊢
    rcases Nat.lt_or_ge other state.tasks.length with lower | upper
    · rw [getElem?_append_left lower] at after
      obtain ⟨cleanup, waiting, present, waits⟩ := held.waitedFor other later after untracked
        unfinished
      refine ⟨cleanup, waiting, ?_, waits⟩
      rw [getElem?_append_left (List.getElem_of_getElem? present).1]
      exact present
    · rw [getElem?_append_right upper] at after
      rw [mem_singleton.mp (mem_of_getElem? after)] at untracked
      cases untracked

section

variable (found : state.tasks[task]? = some entry)
include found

theorem Held.terminateLease (running : entry.status = .created ∨ entry.status = .waitingCreate)
    (cleanup : ∀ number, entry.kind ≠ .release number) (number : InitId) :
    Held (state.terminateLease task number) := by
  have waits : Held (state.setStatus task (.waitingRelease state.tasks.length)) := by
    apply held.setStatus found
    · rcases running with created | waiting
      · rw [created]
        nofun
      · rw [waiting]
        nofun
    · intro release impossible
      rcases running with created | waiting
      · rw [created] at impossible
        cases impossible
      · rw [waiting] at impossible
        cases impossible
  have length : (state.setStatus task (.waitingRelease state.tasks.length)).tasks.length =
    state.tasks.length := length_modify _ _ _
  have here : (state.setStatus task (.waitingRelease state.tasks.length)).tasks[task]? =
      some { entry with status := .waitingRelease state.tasks.length } := by
    change (state.tasks.modify task _)[task]? = _
    rw [getElem?_modify_eq, found]
    rfl
  constructor
  · intro other member untracked
    rcases mem_append.mp member with old | new
    · exact waits.releases other old untracked
    · exact ⟨number, by rw [mem_singleton.mp new]⟩
  · intro other later after untracked unfinished
    rcases Nat.lt_or_ge other state.tasks.length with lower | upper
    · have within : other < (state.setStatus task
          (.waitingRelease state.tasks.length)).tasks.length := by
        rw [length]
        exact lower
      obtain ⟨holder, waiting, present, still⟩ := waits.waitedFor other later
        ((getElem?_append_left within).symm.trans after) untracked unfinished
      refine ⟨holder, waiting, ?_, still⟩
      exact (getElem?_append_left (List.getElem_of_getElem? present).1).trans present
    · have last : other = state.tasks.length := by
        have bound := (List.getElem_of_getElem? after).1
        change other < (_ ++ [_]).length at bound
        rw [length_append, length] at bound
        exact Nat.le_antisymm (Nat.le_of_lt_succ bound) upper
      subst last
      have tracked : entry.tracked = true := held.tracked found cleanup
      refine ⟨task, { entry with status := .waitingRelease state.tasks.length }, ?_, tracked, rfl⟩
      exact (getElem?_append_left (List.getElem_of_getElem? here).1).trans here

theorem Held.followCreate (running : entry.status = .created ∨ entry.status = .waitingCreate)
    (cleanup : ∀ number, entry.kind ≠ .release number) (number : InitId) :
    Held (state.followCreate task number) := by
  have moves : ∀ status, Held (state.setStatus task status) := by
    intro status
    apply held.setStatus found
    · rcases running with created | waiting
      · rw [created]
        nofun
      · rw [waiting]
        nofun
    · intro release impossible
      rcases running with created | waiting
      · rw [created] at impossible
        cases impossible
      · rw [waiting] at impossible
        cases impossible
  unfold BlackboxAgentPaddock.followCreate
  split
  · exact moves _
  · exact moves _
  · exact held.terminateLease found running cleanup number
  · exact moves _
  · exact moves _

theorem Held.leaveRelease {release : TaskId} (waiting : entry.status = .waitingRelease release) :
    Held ((state.track release).setStatus task .done) := by
  obtain ⟨_, after, same⟩ := track_found found release
  apply (held.track release).setStatus after
  · rw [same, waiting]
    nofun
  · intro other waits entry present
    rw [same, waiting] at waits
    injection waits with isRelease
    subst isRelease
    rw [track_tasks, getElem?_modify] at present
    obtain ⟨old, _, rfl⟩ := map_eq_some_iff.mp present
    rw [if_pos rfl]
    exact .inr rfl

end

theorem Held.startTask (task : TaskId) : Held (state.startTask task) := by
  unfold BlackboxAgentPaddock.startTask
  split
  · next found => exact held.followCreate found (.inl rfl) (fun _ => nofun) _
  · next found => exact held.terminateLease found (.inl rfl) (fun _ => nofun) _
  · next found =>
      have begun : Held (state.setStatus task .releasing) :=
        held.setStatus found nofun (fun _ => nofun)
      exact begun.of_same rfl
  · exact held

theorem Held.resumeTask (task : TaskId) : Held (state.resumeTask task) := by
  unfold BlackboxAgentPaddock.resumeTask
  split
  · next found => exact held.followCreate found (.inr rfl) (fun _ => nofun) _
  · next release _ found =>
      split
      · next ended =>
          apply held.setStatus found nofun
          intro other waits entry present
          injection waits with isRelease
          subst isRelease
          obtain ⟨again, here, done⟩ := isDone_iff.mp ended
          rw [present, some_inj] at here
          exact .inl (here ▸ done)
      · exact held
  · next found => exact held.setStatus found nofun (fun _ => nofun)
  · exact held

theorem Held.cancelTask (task : TaskId) : Held (state.cancelTask task) := by
  unfold BlackboxAgentPaddock.cancelTask
  split
  · exact held
  · next kind status tracked found =>
      cases status with
      | created | releasing => exact held.setStatus found nofun (fun _ => nofun)
      | waitingCreate => exact held
      | waitingRelease release => exact held.leaveRelease found rfl
      | done => exact held

variable (number : InitId)

theorem Held.giveUp (trajectoryId : String) (phase : InitPhase) :
    Held (state.giveUp number trajectoryId phase) :=
  (held.schedule (.leaseCleanup number)).of_same rfl

theorem Held.check (trajectoryId : String) : Held (state.check number trajectoryId) := by
  unfold BlackboxAgentPaddock.check
  split <;> exact held.of_same rfl

theorem Held.resumeInit (succeeded : Bool) : Held (state.resumeInit number succeeded) := by
  unfold BlackboxAgentPaddock.resumeInit
  split
  · exact held
  · next init found =>
      split
      · split
        · exact held.giveUp number _ _
        · split
          · exact held.check number _
          · exact held.of_same rfl
      · exact held.of_same rfl
      · exact (held.schedule (.createCleanup number)).of_same rfl
      · split
        · exact held.check number _
        · exact held.giveUp number _ _
      · split
        · exact held.of_same rfl
        · exact held.giveUp number _ _
      · split
        · exact held.of_same rfl
        · exact held
      · exact held

theorem Held.cancelInit : Held (state.cancelInit number) := by
  unfold BlackboxAgentPaddock.cancelInit
  split
  · exact held
  · split
    · exact (held.schedule (.createCleanup number)).of_same rfl
    · exact held.giveUp number _ _
    · exact held.giveUp number _ _
    · exact held.of_same rfl
    · exact held
    · exact held

theorem Held.step (event : Event) : Held (step state event) := by
  cases event with
  | startInit trajectoryId =>
    unfold Paddock.step startInit
    simp only
    split
    · exact held
    · exact held.of_same rfl
  | endCreate number answer =>
    unfold Paddock.step endCreate
    simp only
    split
    · exact held.of_same rfl
    · exact held
  | resumeInit number succeeded => exact held.resumeInit number succeeded
  | cancelInit number => exact held.cancelInit number
  | terminate trajectoryId =>
    unfold Paddock.step terminate
    simp only
    split <;> exact held.of_same rfl
  | startTask task => exact held.startTask task
  | resumeTask task => exact held.resumeTask task
  | timeOutTask task =>
    unfold Paddock.step timeOutTask
    simp only
    split
    · next found => exact held.leaveRelease found rfl
    · exact held
  | cancelTask task => exact held.cancelTask task
  | discard task =>
    unfold Paddock.step BlackboxAgentPaddock.discard
    simp only
    split
    · split
      · exact held
      · exact held.of_same rfl
    · exact held
  | beginDrain => exact held.of_same rfl
  | wakeDrain drain =>
    unfold Paddock.step wakeDrain
    simp only
    split
    · split
      · exact held.of_same rfl
      · exact held
    · exact held

end

end Dressage.Paddock

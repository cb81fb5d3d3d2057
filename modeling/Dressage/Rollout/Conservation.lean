/-
Conservation of completed groups.

Every group the worker completes has one worker-local id. The ids are followed
through the queue, the call in progress and the account: no step of the shared
loop makes one appear twice or vanish. What a variant does with the groups it
drained and did not need is its own affair.
-/

import Dressage.Rollout.Collector

namespace Dressage.Rollout

open Lib List OrderedDict

def pendingIds (data : List PendingGroup) : List Nat := data.map PendingGroup.groupId

def Account.ids (account : Account) : List Nat :=
  pendingIds account.returned ++ account.retried.map Prod.fst ++ account.stale.map Prod.fst ++
    account.exhausted.map Prod.fst

def Collection.ids (state : Collection) : List Nat :=
  state.completedById.keys ++ pendingIds state.data ++ state.account.ids

/-- A pending group carries the marked result of a completed group that did not fail. -/
def Yields (marking : Marking) (completed : List CompletedGroup) (pending : PendingGroup) : Prop :=
  ∃ source ∈ completed, source.groupId = pending.groupId ∧ source.isFailed = false ∧
    ∃ rolloutId, pending.samples =
      marking.returned rolloutId pending.groupId (source.result.getD [])

structure Account.Sound (marking : Marking) (completed : List CompletedGroup)
    (account : Account) : Prop where
  returned : ∀ pending ∈ account.returned, Yields marking completed pending
  retried : ∀ entry ∈ account.retried, ∃ source ∈ completed, source.groupId = entry.1 ∧
    source.isFailed = true ∧ entry.2 = incrementRetry source.originalGroup
  stale : ∀ entry ∈ account.stale, ∃ source ∈ completed, source.groupId = entry.1 ∧
    source.isFailed = false ∧ entry.2.keepGroup (source.result.getD []) = some false
  exhausted : ∀ entry ∈ account.exhausted, ∃ source ∈ completed, source.groupId = entry.1 ∧
    source.isFailed = true ∧ entry.2 ≤ retryCount source.originalGroup

structure Collection.Sound (marking : Marking) (completed : List CompletedGroup)
    (state : Collection) : Prop where
  held : ∀ entry ∈ state.completedById.entries, entry.2 ∈ completed ∧ entry.2.groupId = entry.1
  data : ∀ pending ∈ state.data, Yields marking completed pending
  account : state.account.Sound marking completed

variable {history : List CompletedGroup} {marking : Marking}

theorem Yields.mono {pending : PendingGroup} (yields : Yields marking history pending)
    (later : List CompletedGroup) :
    Yields marking (history ++ later) pending := by
  obtain ⟨source, member, facts⟩ := yields
  exact ⟨source, mem_append_left later member, facts⟩

theorem Account.Sound.mono {account : Account} (sound : account.Sound marking history)
    (later : List CompletedGroup) :
    account.Sound marking (history ++ later) := by
  refine
    { returned := fun pending member => (sound.returned pending member).mono later
      retried := ?_
      stale := ?_
      exhausted := ?_ }
  · intro entry member
    obtain ⟨source, known, facts⟩ := sound.retried entry member
    exact ⟨source, mem_append_left later known, facts⟩
  · intro entry member
    obtain ⟨source, known, facts⟩ := sound.stale entry member
    exact ⟨source, mem_append_left later known, facts⟩
  · intro entry member
    obtain ⟨source, known, facts⟩ := sound.exhausted entry member
    exact ⟨source, mem_append_left later known, facts⟩

theorem Collection.Sound.mono {state : Collection} (sound : state.Sound marking history)
    (later : List CompletedGroup) :
    state.Sound marking (history ++ later) := by
  refine
    { held := ?_
      data := fun pending member => (sound.data pending member).mono later
      account := sound.account.mono later }
  intro entry member
  exact ⟨mem_append_left later (sound.held entry member).1, (sound.held entry member).2⟩

theorem forall_snoc {α : Type} {property : α → Prop} {items : List α} {last : α}
    (before : ∀ item ∈ items, property item) (atLast : property last) :
    ∀ item ∈ items ++ [last], property item := by
  intro item member
  rcases mem_append.mp member with old | new
  · exact before item old
  · rw [mem_singleton.mp new]
    exact atLast

theorem keepGroup_returned (marking : Marking) (tracker : StalenessTracker) (rolloutId : Int)
    (groupId : Nat) (group : Group) :
    tracker.keepGroup (marking.returned rolloutId groupId group) = tracker.keepGroup group := by
  unfold StalenessTracker.keepGroup StalenessTracker.shouldDropGroup
  rw [marking.sameVersions]

section Consume

variable {marking : Marking} {rules : Rules} {tracker : StalenessTracker}

variable {completed : CompletedGroup} {groupId : Nat} {next : Collection}

section

variable (ok : consumeOne marking rules tracker groupId completed state = .ok next)
include ok

theorem consumeOne_cases :
    (completed.isFailed = true ∧
      next = { state with
        account := { state.account with
          retried := state.account.retried ++
            [(groupId, incrementRetry completed.originalGroup)] } }) ∨
    (completed.isFailed = true ∧ rules.maxRetries ≤ retryCount completed.originalGroup ∧
      next = { state with
        droppedFailedGroups := state.droppedFailedGroups + 1
        account := { state.account with
          exhausted := state.account.exhausted ++ [(groupId, rules.maxRetries)] } }) ∨
    (completed.isFailed = false ∧
      tracker.keepGroup (completed.result.getD []) = some false ∧
      next = { state with
        account := { state.account with
          stale := state.account.stale ++ [(groupId, tracker)] } }) ∨
    (completed.isFailed = false ∧
      tracker.keepGroup (completed.result.getD []) = some true ∧
      next = { state with
        data := state.data ++
          [{ groupId := groupId
             samples := marking.returned rules.rolloutId groupId
              (completed.result.getD []) }] }) := by
  unfold consumeOne at ok
  by_cases failed : completed.isFailed = true
  · rw [if_pos failed] at ok
    by_cases retry : retryCount completed.originalGroup < rules.maxRetries
    · rw [if_pos retry] at ok
      exact .inl ⟨failed, (Except.ok.inj ok).symm⟩
    · rw [if_neg retry] at ok
      split at ok
      · cases ok
      · exact .inr (.inl ⟨failed, not_lt.mp retry, (Except.ok.inj ok).symm⟩)
  · rw [if_neg failed] at ok
    rw [Bool.not_eq_true] at failed
    cases kept : tracker.keepGroup (completed.result.getD []) with
    | none => simp [kept] at ok
    | some keep =>
      cases keep with
      | false =>
        simp only [kept] at ok
        exact .inr (.inr (.inl ⟨failed, rfl, (Except.ok.inj ok).symm⟩))
      | true =>
        simp only [kept] at ok
        exact .inr (.inr (.inr ⟨failed, rfl, (Except.ok.inj ok).symm⟩))

theorem consumeOne_ids :
    next.ids.Perm (groupId :: state.ids) := by
  rw [perm_iff_count]
  intro id
  obtain ⟨_, rfl⟩ | ⟨_, _, rfl⟩ | ⟨_, _, rfl⟩ | ⟨_, _, rfl⟩ := consumeOne_cases ok
  all_goals
    simp only [Collection.ids, Account.ids, pendingIds, map_append, map_cons,
      map_nil, count_append, count_cons, count_nil]
    omega

theorem consumeOne_completedById :
    next.completedById = state.completedById := by
  obtain ⟨_, rfl⟩ | ⟨_, _, rfl⟩ | ⟨_, _, rfl⟩ | ⟨_, _, rfl⟩ := consumeOne_cases ok
  all_goals rfl

theorem consumeOne_returned :
    next.account.returned = state.account.returned := by
  obtain ⟨_, rfl⟩ | ⟨_, _, rfl⟩ | ⟨_, _, rfl⟩ | ⟨_, _, rfl⟩ := consumeOne_cases ok
  all_goals rfl

theorem consumeOne_sound {history : List CompletedGroup} (known : completed ∈ history)
    (sameId : completed.groupId = groupId) (sound : state.Sound marking history) :
    next.Sound marking history := by
  obtain ⟨failed, rfl⟩ | ⟨failed, bound, rfl⟩ | ⟨passed, dropped, rfl⟩ | ⟨passed, kept, rfl⟩ :=
    consumeOne_cases ok
  · exact
      { sound with
        account :=
          { sound.account with
            retried := forall_snoc sound.account.retried ⟨completed, known, sameId, failed, rfl⟩ } }
  · exact
      { sound with
        account :=
          { sound.account with
            exhausted := forall_snoc sound.account.exhausted
              ⟨completed, known, sameId, failed, bound⟩ } }
  · exact
      { sound with
        account :=
          { sound.account with
            stale := forall_snoc sound.account.stale ⟨completed, known, sameId, passed, dropped⟩ } }
  · exact
      { sound with
        data := forall_snoc sound.data ⟨completed, known, sameId, passed, rules.rolloutId, rfl⟩ }

end

variable {state : Collection}

private theorem Collection.Sound.popped {history : List CompletedGroup}
    (sound : state.Sound marking history) (groupId : Nat) :
    ({ state with completedById := state.completedById.pop groupId } : Collection).Sound
      marking history :=
  { sound with
    held := fun entry member => sound.held entry (mem_entries_pop member) }

theorem consume_cons {rest : List Nat} {next : Collection}
    (ok : consume marking rules tracker (groupId :: rest) state = .ok next) :
    (rules.target ≤ state.data.length ∧ next = state) ∨
    ∃ completed middle, (state.data.length : Int) < rules.target ∧
      state.completedById.get? groupId = some completed ∧
      consumeOne marking rules tracker groupId completed
        { state with completedById := state.completedById.pop groupId } = .ok middle ∧
      consume marking rules tracker rest middle = .ok next := by
  rw [consume] at ok
  by_cases full : rules.target ≤ state.data.length
  · rw [if_pos full] at ok
    exact .inl ⟨full, (Except.ok.inj ok).symm⟩
  · rw [if_neg full] at ok
    split at ok
    · cases ok
    · rename_i completed found
      cases one : consumeOne marking rules tracker groupId completed
        { state with completedById := state.completedById.pop groupId } with
      | error error =>
        rw [one] at ok
        cases ok
      | ok middle =>
        rw [one] at ok
        exact .inr ⟨completed, middle, not_le.mp full, found, one, ok⟩

theorem consume_spec {history : List CompletedGroup} {ids : List Nat} {state next : Collection}
    (ok : consume marking rules tracker ids state = .ok next)
    (sound : state.Sound marking history) :
    next.ids.Perm state.ids ∧ next.Sound marking history ∧
      next.account.returned = state.account.returned := by
  induction ids generalizing state with
  | nil =>
    cases ok
    exact ⟨List.Perm.refl _, sound, rfl⟩
  | cons groupId rest ih =>
    rcases consume_cons ok with ⟨_full, rfl⟩ | ⟨completed, middle, _room, found, one, later⟩
    · exact ⟨List.Perm.refl _, sound, rfl⟩
    · obtain ⟨known, sameId⟩ := sound.held _ (mem_of_get? found)
      have middleSound := consumeOne_sound one known sameId (sound.popped groupId)
      have sameReturned := consumeOne_returned one
      obtain ⟨laterIds, laterSound, laterReturned⟩ := ih later middleSound
      refine ⟨laterIds.trans ((consumeOne_ids one).trans ?_), laterSound,
        laterReturned.trans sameReturned⟩
      exact (List.Perm.append_right _ (List.Perm.append_right _ (perm_keys_pop found))).symm

theorem consume_exhausts {ids : List Nat} {next : Collection}
    (ok : consume marking rules tracker ids state = .ok next)
    (walked : ∀ id ∈ state.completedById.keys, id ∈ ids) :
    rules.target ≤ next.data.length ∨ next.completedById.entries = [] := by
  induction ids generalizing state with
  | nil =>
    cases ok
    right
    apply eq_nil_iff_forall_not_mem.mpr
    intro entry member
    exact not_mem_nil (walked entry.1 (mem_map_of_mem member))
  | cons groupId rest ih =>
    rcases consume_cons ok with ⟨full, rfl⟩ | ⟨completed, middle, _room, found, one, later⟩
    · exact .inl full
    · refine ih later ?_
      intro id member
      rw [consumeOne_completedById one, mem_keys_pop] at member
      exact (mem_cons.mp (walked id member.2)).resolve_left member.1

end Consume

theorem filterPending_spec (tracker : StalenessTracker) {data kept : List PendingGroup}
    {dropped : List Nat} (ok : tracker.filterPending data = some (kept, dropped)) :
    (pendingIds kept ++ dropped).Perm (pendingIds data) ∧ (∀ group ∈ kept, group ∈ data) ∧
      ∀ id ∈ dropped, ∃ group ∈ data, group.groupId = id ∧
        tracker.keepGroup group.samples = some false := by
  induction data generalizing kept dropped with
  | nil =>
    cases ok
    exact ⟨List.Perm.refl _, fun _ member => member, fun _ member => absurd member not_mem_nil⟩
  | cons group rest ih =>
    simp only [StalenessTracker.filterPending, Option.bind_eq_bind, Option.bind_eq_some_iff] at ok
    obtain ⟨keep, decision, ⟨laterKept, laterDropped⟩, later, result⟩ := ok
    obtain ⟨ids, subset, reasons⟩ := ih later
    cases keep with
    | true =>
      cases result
      refine ⟨List.Perm.cons group.groupId ids, ?_, ?_⟩
      · intro other member
        rcases mem_cons.mp member with rfl | inRest
        · exact mem_cons_self
        · exact mem_cons_of_mem _ (subset other inRest)
      · intro id member
        obtain ⟨other, inRest, reason⟩ := reasons id member
        exact ⟨other, mem_cons_of_mem _ inRest, reason⟩
    | false =>
      cases result
      refine ⟨perm_middle.trans (List.Perm.cons group.groupId ids), ?_, ?_⟩
      · intro other member
        exact mem_cons_of_mem _ (subset other member)
      · intro id member
        rcases mem_cons.mp member with rfl | inRest
        · exact ⟨group, mem_cons_self, rfl, decision⟩
        · obtain ⟨other, otherMember, reason⟩ := reasons id inRest
          exact ⟨other, mem_cons_of_mem _ otherMember, reason⟩

theorem refreshPending_spec {observed : StalenessTracker × Bool} {data kept : List PendingGroup}
    {dropped : List Nat} (ok : refreshPending observed data = some (kept, dropped)) :
    (pendingIds kept ++ dropped).Perm (pendingIds data) ∧ (∀ group ∈ kept, group ∈ data) ∧
      ∀ id ∈ dropped, ∃ group ∈ data, group.groupId = id ∧
        observed.1.keepGroup group.samples = some false := by
  unfold refreshPending at ok
  split at ok
  · exact filterPending_spec observed.1 ok
  · cases ok
    rw [append_nil]
    exact ⟨List.Perm.refl _, fun _ member => member, fun _ member => absurd member not_mem_nil⟩

theorem loadCompleted_entries {batch : List CompletedGroup} {dict : OrderedDict Nat CompletedGroup}
    (distinct : (dict.keys ++ batch.map CompletedGroup.groupId).Nodup) :
    (loadCompleted dict batch).entries =
      dict.entries ++ batch.map (fun completed => (completed.groupId, completed)) := by
  induction batch generalizing dict with
  | nil => simp [loadCompleted]
  | cons completed rest ih =>
    rw [map_cons, nodup_append] at distinct
    have new : completed.groupId ∉ dict.keys := fun member =>
      distinct.2.2 _ member _ mem_cons_self rfl
    have entries := entries_set_new new completed
    have nextDistinct : ((dict.set completed.groupId completed).keys ++
        rest.map CompletedGroup.groupId).Nodup := by
      have keys : (dict.set completed.groupId completed).keys =
          dict.keys ++ [completed.groupId] := by
        unfold OrderedDict.keys
        rw [entries, map_append]
        rfl
      rw [keys, append_assoc, nodup_append]
      exact distinct
    change (loadCompleted (dict.set completed.groupId completed) rest).entries = _
    rw [ih nextDistinct, entries, append_assoc]
    rfl

theorem loadCompleted_keys {batch : List CompletedGroup} {dict : OrderedDict Nat CompletedGroup}
    (distinct : (dict.keys ++ batch.map CompletedGroup.groupId).Nodup) :
    (loadCompleted dict batch).keys = dict.keys ++ batch.map CompletedGroup.groupId := by
  unfold OrderedDict.keys
  rw [loadCompleted_entries distinct, map_append, map_map]
  rfl

def loaded (tracker : StalenessTracker) (batch : List CompletedGroup) (state : Collection)
    (data : List PendingGroup) (dropped : List Nat) : Collection :=
  { state with
    completedById := loadCompleted state.completedById batch
    data := data
    account :=
      { state.account with
        stale := state.account.stale ++ dropped.map (fun id => (id, tracker)) } }

section Pass

variable {marking : Marking} {rules : Rules} {tracker : StalenessTracker}
  {history batch : List CompletedGroup} {state next : Collection}

theorem collectPass_cases (ok : collectPass marking rules tracker batch state = .ok next) :
    ∃ data dropped,
      refreshPending (observeCompleted tracker batch) state.data = some (data, dropped) ∧
      consume marking rules (observeCompleted tracker batch).1
        (loadCompleted state.completedById batch).keys
        (loaded (observeCompleted tracker batch).1 batch state data dropped) = .ok next := by
  simp only [collectPass] at ok
  split at ok
  · cases ok
  · rename_i data dropped refreshed
    exact ⟨data, dropped, refreshed, ok⟩

private theorem loaded_sound {data : List PendingGroup} {dropped : List Nat}
    (refreshed : refreshPending (observeCompleted tracker batch) state.data = some (data, dropped))
    (distinct : (state.completedById.keys ++ batch.map CompletedGroup.groupId).Nodup)
    (known : ∀ completed ∈ batch, completed ∈ history) (sound : state.Sound marking history) :
    (loaded (observeCompleted tracker batch).1 batch state data dropped).Sound marking history := by
  obtain ⟨_ids, subset, reasons⟩ := refreshPending_spec refreshed
  refine
    { held := ?_
      data := fun pending member => sound.data pending (subset pending member)
      account := { sound.account with stale := ?_ } }
  · intro entry member
    change entry ∈ (loadCompleted state.completedById batch).entries at member
    rw [loadCompleted_entries distinct, mem_append] at member
    rcases member with old | new
    · exact sound.held entry old
    · obtain ⟨completed, inBatch, rfl⟩ := mem_map.mp new
      exact ⟨known completed inBatch, rfl⟩
  · intro entry member
    rcases mem_append.mp member with old | new
    · exact sound.account.stale entry old
    · obtain ⟨id, inDropped, rfl⟩ := mem_map.mp new
      obtain ⟨group, inData, sameId, stale⟩ := reasons id inDropped
      obtain ⟨source, inHistory, sourceId, passed, rolloutId, samples⟩ := sound.data group inData
      rw [samples, keepGroup_returned] at stale
      exact ⟨source, inHistory, sourceId.trans sameId, passed, stale⟩

private theorem loaded_ids {data : List PendingGroup} {dropped : List Nat}
    (refreshed : refreshPending (observeCompleted tracker batch) state.data = some (data, dropped))
    (distinct : (state.completedById.keys ++ batch.map CompletedGroup.groupId).Nodup) :
    (loaded (observeCompleted tracker batch).1 batch state data dropped).ids.Perm
      (batch.map CompletedGroup.groupId ++ state.ids) := by
  obtain ⟨ids, _subset, _reasons⟩ := refreshPending_spec refreshed
  rw [perm_iff_count] at ids ⊢
  intro id
  have pending := ids id
  have tags : (dropped.map (fun id => (id, (observeCompleted tracker batch).1))).map Prod.fst =
      dropped := by
    rw [map_map]
    exact map_id dropped
  simp only [loaded, Collection.ids, Account.ids, loadCompleted_keys distinct, map_append,
    count_append, tags] at pending ⊢
  omega

theorem collectPass_spec (ok : collectPass marking rules tracker batch state = .ok next)
    (distinct : (state.completedById.keys ++ batch.map CompletedGroup.groupId).Nodup)
    (known : ∀ completed ∈ batch, completed ∈ history) (sound : state.Sound marking history) :
    next.ids.Perm (batch.map CompletedGroup.groupId ++ state.ids) ∧
      next.Sound marking history ∧ next.account.returned = state.account.returned ∧
      (rules.target ≤ next.data.length ∨ next.completedById.entries = []) := by
  obtain ⟨data, dropped, refreshed, walked⟩ := collectPass_cases ok
  obtain ⟨ids, nextSound, returned⟩ :=
    consume_spec walked (loaded_sound refreshed distinct known sound)
  exact ⟨ids.trans (loaded_ids refreshed distinct), nextSound, returned,
    consume_exhausts walked (fun _ member => member)⟩

end Pass

def queueIds (machine : Machine) : List Nat :=
  machine.worker.outputQueue.map CompletedGroup.groupId

def completedIds (machine : Machine) : List Nat :=
  machine.completed.map CompletedGroup.groupId

def callIds : Option Call → List Nat
  | none => []
  | some call => call.completedById.keys ++ pendingIds call.data

def issuedIds (machine : Machine) : List Nat :=
  machine.worker.prefetched.map Prod.fst ++ machine.worker.active.map Prod.fst ++
    completedIds machine

structure Machine.Tracked (marking : Marking) (machine : Machine) : Prop where
  running : machine.worker.running = true
  issuedOnce : (issuedIds machine).Nodup
  issued : ∀ id ∈ issuedIds machine, id < machine.worker.nextGroupId
  held : (completedIds machine).Perm
    (queueIds machine ++ callIds machine.call ++ machine.account.ids)
  queued : ∀ completed ∈ machine.worker.outputQueue, completed ∈ machine.completed
  account : machine.account.Sound marking machine.completed
  collected : ∀ call, machine.call = some call →
    (machine.collection call).Sound marking machine.completed
  walked : ∀ call, machine.call = some call → call.collecting = true →
    call.completedById.entries = []
  outputs : machine.outputs.flatten.Perm (machine.account.returned.map PendingGroup.samples)

theorem initial_tracked (marking : Marking) (queueSize highWatermark maxActiveGroups : Nat)
    (keepVersions : Option Nat) :
    (Machine.initial queueSize highWatermark maxActiveGroups keepVersions).Tracked marking := by
  refine
    { running := rfl
      issuedOnce := nodup_nil
      issued := ?_
      held := List.Perm.refl _
      queued := ?_
      account :=
        { returned := ?_
          retried := ?_
          stale := ?_
          exhausted := ?_ }
      collected := ?_
      walked := ?_
      outputs := List.Perm.refl _ }
  all_goals
    intro item member
    cases member

section Steps

variable {marking : Marking} {machine : Machine}

theorem prefetch_tracked (tracked : machine.Tracked marking) (settle : Machine → Call → Machine)
    (group : Group) : (machine.step marking settle (.prefetch group)).Tracked marking := by
  have ids : (issuedIds (machine.step marking settle (.prefetch group))).Perm
      (machine.worker.nextGroupId :: issuedIds machine) := by
    rw [perm_iff_count]
    intro id
    simp only [Machine.step, issuedIds, completedIds, map_append, map_cons,
      map_nil, count_append, count_cons, count_nil]
    omega
  refine { tracked with issuedOnce := ?_, issued := ?_ }
  · rw [ids.nodup_iff, nodup_cons]
    exact ⟨fun member => Nat.lt_irrefl _ (tracked.issued _ member), tracked.issuedOnce⟩
  · intro id member
    change id < machine.worker.nextGroupId + 1
    rcases mem_cons.mp (ids.mem_iff.mp member) with rfl | old
    · exact Nat.lt_succ_self _
    · exact Nat.lt_succ_of_lt (tracked.issued id old)

theorem dispatch_tracked (tracked : machine.Tracked marking) (fresh : Option Group) :
    (machine.dispatch marking fresh).Tracked marking := by
  simp only [Machine.dispatch]
  split
  · split
    · rename_i groupId group rest waiting
      -- The id moves from the prefetched list to the active one.
      have ids : (rest.map Prod.fst ++ (machine.worker.active ++
          [(groupId, marking.submitted machine.worker.currentRolloutId groupId group)]).map
            Prod.fst ++ completedIds machine).Perm (issuedIds machine) := by
        rw [perm_iff_count]
        intro id
        simp only [issuedIds, waiting, map_append, map_cons, map_nil,
          count_append, count_cons, count_nil]
        omega
      refine { tracked with issuedOnce := ?_, issued := ?_ }
      · exact ids.nodup_iff.mpr tracked.issuedOnce
      · intro id member
        exact tracked.issued id (ids.mem_iff.mp member)
    · rename_i group waiting
      have ids : (machine.worker.prefetched.map Prod.fst ++ (machine.worker.active ++
          [(machine.worker.nextGroupId, marking.submitted machine.worker.currentRolloutId
            machine.worker.nextGroupId group)]).map Prod.fst ++ completedIds machine).Perm
            (machine.worker.nextGroupId :: issuedIds machine) := by
        rw [perm_iff_count]
        intro id
        simp only [issuedIds, map_append, map_cons, map_nil, count_append, count_cons, count_nil]
        omega
      refine { tracked with issuedOnce := ?_, issued := ?_ }
      · exact (ids.nodup_iff.mpr (nodup_cons.mpr
          ⟨fun member => Nat.lt_irrefl _ (tracked.issued _ member), tracked.issuedOnce⟩))
      · intro id member
        change id < machine.worker.nextGroupId + 1
        rcases mem_cons.mp (ids.mem_iff.mp member) with rfl | old
        · exact Nat.lt_succ_self _
        · exact Nat.lt_succ_of_lt (tracked.issued id old)
    · exact tracked
  · exact tracked

private theorem perm_active {active : List (Nat × Group)} (once : (active.map Prod.fst).Nodup)
    {groupId : Nat} (present : groupId ∈ active.map Prod.fst) :
    (active.map Prod.fst).Perm
      (groupId :: (active.filter (fun other => other.1 ≠ groupId)).map Prod.fst) := by
  let dict : OrderedDict Nat Group :=
    { entries := active
      distinct := once }
  obtain ⟨group, found⟩ := (dict.mem_keys_iff groupId).mp present
  exact perm_keys_pop found

theorem completedOf_groupId (groupId : Nat) (group : Group) (outcome : Except String Group) :
    (completedOf groupId group outcome).groupId = groupId := by
  cases outcome with
  | ok result => rfl
  | error message => rfl

theorem finish_tracked (tracked : machine.Tracked marking) (groupId : Nat)
    (outcome : Except String Group) : (machine.finish groupId outcome).Tracked marking := by
  simp only [Machine.finish]
  split
  · exact tracked
  · rename_i entry found
    have entryId : entry.1 = groupId := by simpa using find?_some found
    have present : groupId ∈ machine.worker.active.map Prod.fst := by
      rw [← entryId]
      exact mem_map_of_mem (mem_of_find?_eq_some found)
    have activeOnce : (machine.worker.active.map Prod.fst).Nodup :=
      (tracked.issuedOnce.of_append_left).of_append_right
    -- A running worker never drops: the put either waits or appends.
    simp only [Worker.putCompleted, tracked.running]
    by_cases room : machine.worker.hasRoom = true
    · simp only [if_pos room]
      have ids : (machine.worker.prefetched.map Prod.fst ++
          (machine.worker.active.filter (fun other => other.1 ≠ groupId)).map Prod.fst ++
          (machine.completed ++ [completedOf groupId entry.2 outcome]).map
            CompletedGroup.groupId).Perm (issuedIds machine) := by
        have moved := perm_active activeOnce present
        rw [perm_iff_count] at moved ⊢
        intro id
        have count := moved id
        simp only [issuedIds, completedIds, map_append, map_cons, map_nil,
          completedOf_groupId, count_append, count_cons, count_nil] at count ⊢
        omega
      refine
        { tracked with
          running := rfl
          issuedOnce := ids.nodup_iff.mpr tracked.issuedOnce
          issued := fun id member => tracked.issued id (ids.mem_iff.mp member)
          held := ?_
          queued := ?_
          account := tracked.account.mono _
          collected := fun call same => (tracked.collected call same).mono _ }
      · have held := tracked.held
        rw [perm_iff_count] at held ⊢
        intro id
        have count := held id
        simp only [completedIds, queueIds, map_append, map_cons, map_nil,
          count_append, count_cons, count_nil] at count ⊢
        omega
      · intro completed member
        rcases mem_append.mp member with old | new
        · exact mem_append_left _ (tracked.queued completed old)
        · exact mem_append_right _ new
    · simp only [if_neg room]
      exact tracked

theorem begin_tracked (tracked : machine.Tracked marking) (rules : Rules) :
    (machine.begin rules).Tracked marking := by
  simp only [Machine.begin]
  split
  · exact tracked
  · rename_i idle
    refine
      { tracked with
        held := ?_
        collected := ?_
        walked := ?_ }
    · have held := tracked.held
      rw [idle] at held
      exact held
    · intro call same
      cases same
      refine { held := ?_, data := ?_, account := tracked.account }
      · intro entry member
        cases member
      · intro pending member
        cases member
    · intro call same _collecting
      cases same
      rfl

variable {call : Call} {settle : Machine → Call → Machine}

section

variable (tracked : machine.Tracked marking)
include tracked

theorem pass_tracked (current : machine.call = some call) (collecting : call.collecting = true)
    {collection : Collection}
    (ok : collectPass marking call.rules machine.worker.staleness machine.worker.outputQueue
      (machine.collection call) = .ok collection) :
    (machine.drained.resume call.rules collection).Tracked marking := by
  have empty := tracked.walked call current collecting
  have noKeys : call.completedById.keys = [] := by
    unfold OrderedDict.keys
    rw [empty]
    rfl
  have queueOnce : (queueIds machine).Nodup := by
    have completedOnce : (completedIds machine).Nodup := tracked.issuedOnce.of_append_right
    exact ((tracked.held.nodup_iff.mp completedOnce).of_append_left).of_append_left
  have distinct : ((machine.collection call).completedById.keys ++
      machine.worker.outputQueue.map CompletedGroup.groupId).Nodup := by
    change (call.completedById.keys ++ queueIds machine).Nodup
    rw [noKeys]
    exact queueOnce
  obtain ⟨ids, sound, returned, walked⟩ :=
    collectPass_spec ok distinct tracked.queued (tracked.collected call current)
  refine
    { tracked with
      held := ?_
      queued := ?_
      account := sound.account
      collected := ?_
      walked := ?_
      outputs := ?_ }
  · have held := tracked.held
    rw [current] at held
    rw [perm_iff_count] at held ids ⊢
    intro id
    have before := held id
    have after := ids id
    simp only [completedIds, queueIds, callIds, Machine.drained, Machine.resume,
      Machine.collection, Collection.ids, map_nil, count_append,
      count_nil] at before after ⊢
    omega
  · intro completed member
    cases member
  · intro next same
    cases same
    exact sound
  · intro next same nextCollecting
    cases same
    simp only [Call.collecting, decide_eq_true_eq] at nextCollecting
    exact walked.resolve_left (not_le.mpr nextCollecting)
  · change machine.outputs.flatten.Perm (collection.account.returned.map PendingGroup.samples)
    rw [returned]
    exact tracked.outputs

theorem finishCall_tracked (current : machine.call = some call)
    (nothingLeft : call.completedById.entries = [])
    (returns : (machine.finishCall call).failures = machine.failures) :
    (machine.finishCall call).Tracked marking := by
  have failing : ∀ error, (machine.fail error).failures ≠ machine.failures := by
    intro error same
    have lengths := congrArg List.length same
    simp [Machine.fail] at lengths
  have noKeys : call.completedById.keys = [] := by
    unfold OrderedDict.keys
    rw [nothingLeft]
    rfl
  unfold Machine.finishCall at returns ⊢
  split at returns
  · exact absurd returns (failing _)
  · rename_i nonempty
    rw [if_neg nonempty]
    split at returns
    · exact absurd returns (failing _)
    · rename_i trainable
      rw [if_neg trainable]
      refine
        { tracked with
          held := ?_
          account := { tracked.account with returned := ?_ }
          collected := ?_
          walked := ?_
          outputs := ?_ }
      · have held := tracked.held
        rw [current] at held
        rw [perm_iff_count] at held ⊢
        intro id
        have before := held id
        simp only [completedIds, queueIds, callIds, noKeys, Account.ids, pendingIds,
          map_append, count_append, count_nil] at before ⊢
        omega
      · intro pending member
        rcases mem_append.mp member with old | new
        · exact tracked.account.returned pending old
        · exact (tracked.collected call current).data pending new
      · intro other impossible
        cases impossible
      · intro other impossible
        cases impossible
      · simp only [flatten_append, flatten_cons, flatten_nil, append_nil,
          map_append]
        exact tracked.outputs.append (perm_insertionSort _ _)

theorem step_tracked (settle : Machine → Call → Machine) (event : Event)
    (settles : ∀ call, machine.call = some call → call.collecting = false →
      (settle machine call).failures = machine.failures → (settle machine call).Tracked marking)
    (returns : (machine.step marking settle event).failures = machine.failures) :
    (machine.step marking settle event).Tracked marking := by
  cases event with
  | prefetch group => exact prefetch_tracked tracked settle group
  | dispatch fresh => exact dispatch_tracked tracked fresh
  | finish groupId outcome => exact finish_tracked tracked groupId outcome
  | begin rules => exact begin_tracked tracked rules
  | pass =>
    simp only [Machine.step] at returns ⊢
    cases current : machine.call with
    | none => exact tracked
    | some call =>
      simp only [current] at returns ⊢
      by_cases collecting : call.collecting = true
      · rw [if_pos collecting] at returns ⊢
        unfold Machine.pass at returns ⊢
        cases outcome : collectPass marking call.rules machine.worker.staleness
          machine.worker.outputQueue (machine.collection call) with
        | error error =>
          rw [outcome] at returns
          have lengths := congrArg List.length returns
          simp [Machine.fail, Machine.drained] at lengths
        | ok collection => exact pass_tracked tracked current collecting outcome
      · rw [if_neg collecting]
        exact tracked
  | settle =>
    simp only [Machine.step] at returns ⊢
    cases current : machine.call with
    | none => exact tracked
    | some call =>
      simp only [current] at returns ⊢
      by_cases collecting : call.collecting = true
      · rw [if_pos collecting]
        exact tracked
      · rw [if_neg collecting] at returns ⊢
        exact settles call current (Bool.not_eq_true _ ▸ collecting) returns

end

theorem finishCall_failures (machine : Machine) (call : Call) :
    machine.failures <+: (machine.finishCall call).failures := by
  unfold Machine.finishCall
  split
  · exact prefix_append _ _
  · split
    · exact prefix_append _ _
    · exact prefix_refl _

theorem step_failures (marking : Marking)
    (settleGrows : ∀ machine call, machine.failures <+: (settle machine call).failures)
    (machine : Machine) (event : Event) :
    machine.failures <+: (machine.step marking settle event).failures := by
  cases event with
  | prefetch group => exact prefix_refl _
  | dispatch fresh =>
    simp only [Machine.step, Machine.dispatch]
    split
    · split <;> exact prefix_refl _
    · exact prefix_refl _
  | finish groupId outcome =>
    simp only [Machine.step, Machine.finish]
    split
    · exact prefix_refl _
    · split <;> exact prefix_refl _
  | begin rules =>
    simp only [Machine.step, Machine.begin]
    split <;> exact prefix_refl _
  | pass =>
    simp only [Machine.step]
    split
    · exact prefix_refl _
    · split
      · unfold Machine.pass
        split
        · exact prefix_append _ _
        · exact prefix_refl _
      · exact prefix_refl _
  | settle =>
    simp only [Machine.step]
    split
    · exact prefix_refl _
    · split
      · exact prefix_refl _
      · exact settleGrows machine _

theorem finishCall_call (machine : Machine) (call : Call) :
    (machine.finishCall call).call = none := by
  unfold Machine.finishCall
  split
  · rfl
  · split <;> rfl

theorem dispatch_call (machine : Machine) (fresh : Option Group) :
    (machine.dispatch marking fresh).call = machine.call := by
  simp only [Machine.dispatch]
  split
  · split <;> rfl
  · rfl

theorem finish_call (machine : Machine) (groupId : Nat) (outcome : Except String Group) :
    (machine.finish groupId outcome).call = machine.call := by
  simp only [Machine.finish]
  split
  · rfl
  · split <;> rfl

theorem step_rules
    (settleKeeps : ∀ machine call next, machine.call = some call →
      (settle machine call).call = some next → next.rules = call.rules) {event : Event}
    (current : (machine.step marking settle event).call = some call) :
    (∃ before, machine.call = some before ∧ call.rules = before.rules) ∨
      ∃ rules, event = .begin rules ∧ call.rules = rules := by
  cases event with
  | prefetch group => exact .inl ⟨call, current, rfl⟩
  | dispatch fresh =>
    rw [Machine.step, dispatch_call] at current
    exact .inl ⟨call, current, rfl⟩
  | finish groupId outcome =>
    rw [Machine.step, finish_call] at current
    exact .inl ⟨call, current, rfl⟩
  | begin rules =>
    simp only [Machine.step, Machine.begin] at current
    split at current
    · exact .inl ⟨call, current, rfl⟩
    · cases current
      exact .inr ⟨rules, rfl, rfl⟩
  | pass =>
    simp only [Machine.step] at current
    left
    split at current
    · exact ⟨call, current, rfl⟩
    · rename_i before same
      refine ⟨before, same, ?_⟩
      split at current
      · unfold Machine.pass at current
        split at current
        · cases current
        · cases current
          rfl
      · rw [same] at current
        cases current
        rfl
  | settle =>
    simp only [Machine.step] at current
    left
    split at current
    · exact ⟨call, current, rfl⟩
    · rename_i before same
      refine ⟨before, same, ?_⟩
      split at current
      · rw [same] at current
        cases current
        rfl
      · exact settleKeeps machine before call same current

theorem step_returns
    (settleGrows : ∀ machine call, machine.failures <+: (settle machine call).failures)
    {event : Event} (returns : (machine.step marking settle event).failures = []) :
    machine.failures = [] ∧ (machine.step marking settle event).failures = machine.failures := by
  have grows := step_failures marking settleGrows machine event
  rw [returns] at grows ⊢
  have empty := prefix_nil.mp grows
  exact ⟨empty, empty.symm⟩

end Steps

/-- Every completed group is in exactly one place: still queued, returned once,
given back for a retry, dropped as stale, or dropped as exhausted. -/
structure Conserved (marking : Marking) (machine : Machine) : Prop where
  distinct : (completedIds machine).Nodup
  oneFate : (completedIds machine).Perm (queueIds machine ++ machine.account.ids)
  queued : ∀ completed ∈ machine.worker.outputQueue, completed ∈ machine.completed
  account : machine.account.Sound marking machine.completed
  outputs : machine.outputs.flatten.Perm (machine.account.returned.map PendingGroup.samples)
  retryCounts : ∀ entry ∈ machine.account.retried, ∃ source ∈ machine.completed,
    source.groupId = entry.1 ∧ entry.2.map sampleRetryCount =
      source.originalGroup.map (fun sample => sampleRetryCount sample + 1)

theorem Machine.Tracked.conserved {machine : Machine} (tracked : machine.Tracked marking)
    (idle : machine.call = none) :
    Conserved marking machine := by
  refine
    { tracked with
      distinct := tracked.issuedOnce.of_append_right
      oneFate := ?_
      retryCounts := ?_ }
  · have held := tracked.held
    rw [idle] at held
    simpa only [callIds, append_nil] using held
  · intro entry member
    obtain ⟨source, known, sameId, _failed, given⟩ := tracked.account.retried entry member
    refine ⟨source, known, sameId, ?_⟩
    rw [given, incrementRetry_counts]

end Dressage.Rollout

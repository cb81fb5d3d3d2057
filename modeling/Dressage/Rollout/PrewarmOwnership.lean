/-
Every prewarm has one holder.

A prewarm is in the store, with a claimer, in a dispose task, handed over, missed or terminated,
and in one of these only.
-/

import Dressage.Lib.Lists
import Dressage.Lib.Runs
import Dressage.Rollout.PrewarmStore

namespace Dressage.Rollout.Prewarm

open Lib List OrderedDict Option

variable {Paddock Args State : Type}

/-- The sessions of a group are the keys of its records; no group is empty. -/
structure Grouped (store : PrewarmStore Paddock Args) : Prop where
  keyed : ∀ sessionId record, store.records.get? sessionId = some record →
    record.sessionId = sessionId
  nonempty : ∀ groupId sessions, store.groupSessions.get? groupId = some sessions → sessions ≠ []
  nodup : ∀ groupId sessions, store.groupSessions.get? groupId = some sessions → sessions.Nodup
  grouping : ∀ groupId sessionId, sessionId ∈ store.groupSessions.getD groupId [] ↔
    ∃ record, store.records.get? sessionId = some record ∧ record.groupId = groupId

namespace PrewarmStore

@[simp] theorem mem_addSession (sessionId other : SessionId) (sessions : List SessionId) :
    other ∈ addSession sessionId sessions ↔ other = sessionId ∨ other ∈ sessions := by
  unfold addSession
  split
  · next present =>
      constructor
      · exact .inr
      · rintro (rfl | member)
        · exact present
        · exact member
  · simp [or_comm]

theorem nodup_addSession (sessionId : SessionId) {sessions : List SessionId}
    (distinct : sessions.Nodup) : (addSession sessionId sessions).Nodup := by
  unfold addSession
  split
  · exact distinct
  · next absent =>
      rw [nodup_append]
      refine ⟨distinct, nodup_singleton sessionId, ?_⟩
      intro other member last inLast same
      rw [mem_singleton] at inLast
      exact absent (inLast ▸ same ▸ member)

@[simp] theorem mem_discardSession (sessionId other : SessionId) (sessions : List SessionId) :
    other ∈ discardSession sessionId sessions ↔ other ∈ sessions ∧ other ≠ sessionId := by
  simp [discardSession]

theorem getD_remove (store : PrewarmStore Paddock Args) (record : PrewarmRecord Paddock Args)
    (sessionId : SessionId) (groupId : GroupId) :
    (store.remove record sessionId).groupSessions.getD groupId [] =
      if groupId = record.groupId then
        discardSession sessionId (store.groupSessions.getD groupId [])
      else store.groupSessions.getD groupId [] := by
  unfold remove OrderedDict.getD
  by_cases same : groupId = record.groupId
  · subst same
    rw [if_pos rfl]
    cases found : store.groupSessions.get? record.groupId with
    | none => simp [found, discardSession]
    | some sessions =>
      simp only [getD_some]
      split
      · next emptied => simp [emptied]
      · simp
  · rw [if_neg same]
    cases store.groupSessions.get? record.groupId with
    | none => rfl
    | some sessions =>
      simp only
      split
      · rw [get?_pop_of_ne _ same]
      · rw [get?_set_of_ne _ _ same]

theorem get?_popRecords (sessionIds : List SessionId) (records : Records Paddock Args)
    (sessionId : SessionId) :
    (popRecords sessionIds records).2.get? sessionId =
      if sessionId ∈ sessionIds then none else records.get? sessionId := by
  induction sessionIds generalizing records with
  | nil => simp [popRecords]
  | cons first rest ih =>
    unfold popRecords
    cases found : records.get? first with
    | none =>
      simp only [ih, mem_cons]
      by_cases same : sessionId = first
      · simp [same, found]
      · simp [same]
    | some record =>
      simp only [ih, mem_cons, get?_pop]
      by_cases same : sessionId = first
      · simp [same]
      · simp [same]

theorem perm_popRecords (sessionIds : List SessionId) (records : Records Paddock Args) :
    records.values.Perm
      ((popRecords sessionIds records).1 ++ (popRecords sessionIds records).2.values) := by
  induction sessionIds generalizing records with
  | nil => exact List.Perm.refl _
  | cons first rest ih =>
    unfold popRecords
    cases found : records.get? first with
    | none => exact ih records
    | some record =>
      have popped := perm_values_pop found
      exact popped.trans ((ih (records.pop first)).cons record)

theorem perm_takeGroup (store : PrewarmStore Paddock Args) (groupId : GroupId) :
    store.records.values.Perm
      ((store.takeGroup groupId).1 ++ (store.takeGroup groupId).2.records.values) :=
  perm_popRecords _ _

theorem perm_take {store after : PrewarmStore Paddock Args} {sessionId : SessionId}
    {record : PrewarmRecord Paddock Args} (taken : store.take sessionId = some (record, after)) :
    store.records.values.Perm (record :: after.records.values) := by
  unfold take at taken
  obtain ⟨found, present, same⟩ := map_eq_some_iff.mp taken
  cases same
  exact perm_values_pop present

end PrewarmStore

open PrewarmStore

theorem grouped_empty : Grouped (PrewarmStore.empty : PrewarmStore Paddock Args) :=
  { keyed := by
      intro sessionId record impossible
      cases impossible
    nonempty := by
      intro groupId sessions impossible
      cases impossible
    nodup := by
      intro groupId sessions impossible
      cases impossible
    grouping := by
      intro groupId sessionId
      simp [PrewarmStore.empty, OrderedDict.getD] }

theorem Grouped.insert {store : PrewarmStore Paddock Args} (grouped : Grouped store)
    {record : PrewarmRecord Paddock Args} (new : store.records.get? record.sessionId = none) :
    Grouped (store.insert record) := by
  unfold PrewarmStore.insert
  constructor
  · intro sessionId held found
    rw [get?_set] at found
    split at found
    · next same =>
        cases found
        exact same.symm
    · exact grouped.keyed sessionId held found
  · intro groupId sessions found empty
    rw [get?_set] at found
    split at found
    · have member : record.sessionId ∈ sessions := by
        rw [← Option.some.inj found, mem_addSession]
        exact .inl rfl
      rw [empty] at member
      cases member
    · exact grouped.nonempty groupId sessions found empty
  · intro groupId sessions found
    rw [get?_set] at found
    split at found
    · cases found
      apply nodup_addSession
      unfold OrderedDict.getD
      cases before : store.groupSessions.get? record.groupId with
      | none => exact nodup_nil
      | some sessions => exact grouped.nodup _ _ before
    · exact grouped.nodup groupId sessions found
  · intro groupId sessionId
    have before := grouped.grouping groupId sessionId
    by_cases sameSession : sessionId = record.sessionId
    · subst sameSession
      rw [new] at before
      by_cases sameGroup : groupId = record.groupId
      · subst sameGroup
        simp [OrderedDict.getD]
      · simp only [OrderedDict.getD, get?_set_of_ne _ _ sameGroup] at before ⊢
        simp [before, Ne.symm sameGroup]
    · simp only [get?_set_of_ne _ _ sameSession, ← before]
      by_cases sameGroup : groupId = record.groupId
      · subst sameGroup
        simp [OrderedDict.getD, sameSession]
      · simp [OrderedDict.getD, get?_set_of_ne _ _ sameGroup]

variable {store : PrewarmStore Paddock Args} {record : PrewarmRecord Paddock Args}
variable {world : World Paddock Args State} {hand : List (PrewarmRecord Paddock Args)}

theorem Grouped.remove (grouped : Grouped store) {sessionId : SessionId}
    (found : store.records.get? sessionId = some record) :
    Grouped (store.remove record sessionId) := by
  have listed : ∀ groupId sessions,
      (store.remove record sessionId).groupSessions.get? groupId = some sessions →
        sessions ≠ [] ∧ sessions.Nodup := by
    intro groupId sessions kept
    unfold PrewarmStore.remove at kept
    cases before : store.groupSessions.get? record.groupId with
    | none =>
      rw [before] at kept
      exact ⟨grouped.nonempty _ _ kept, grouped.nodup _ _ kept⟩
    | some old =>
      simp only [before] at kept
      split at kept
      · rw [get?_pop] at kept
        split at kept
        · cases kept
        · exact ⟨grouped.nonempty _ _ kept, grouped.nodup _ _ kept⟩
      · next left =>
          rw [get?_set] at kept
          split at kept
          · cases kept
            exact ⟨left, (grouped.nodup _ _ before).filter _⟩
          · exact ⟨grouped.nonempty _ _ kept, grouped.nodup _ _ kept⟩
  constructor
  · intro other held stays
    have stays : (store.records.pop sessionId).get? other = some held := stays
    rw [get?_pop] at stays
    split at stays
    · cases stays
    · exact grouped.keyed other held stays
  · exact fun groupId sessions kept => (listed groupId sessions kept).1
  · exact fun groupId sessions kept => (listed groupId sessions kept).2
  · intro groupId other
    have before := grouped.grouping groupId other
    rw [getD_remove]
    change _ ↔ ∃ held, (store.records.pop sessionId).get? other = some held ∧ _
    by_cases sameSession : other = sessionId
    · subst sameSession
      rw [get?_pop_self]
      split
      · simp
      · next otherGroup =>
          rw [before, found]
          simp [Ne.symm otherGroup]
    · rw [get?_pop_of_ne _ sameSession, ← before]
      split
      · simp [sameSession]
      · rfl

theorem Grouped.take {after : PrewarmStore Paddock Args} (grouped : Grouped store)
    {sessionId : SessionId} (taken : store.take sessionId = some (record, after)) :
    Grouped after := by
  unfold PrewarmStore.take at taken
  obtain ⟨found, present, same⟩ := map_eq_some_iff.mp taken
  cases same
  exact grouped.remove present

theorem Grouped.takeGroup (grouped : Grouped store) (groupId : GroupId) :
    Grouped (store.takeGroup groupId).2 := by
  have kept : ∀ sessionId, (store.takeGroup groupId).2.records.get? sessionId =
    if sessionId ∈ store.groupSessions.getD groupId [] then none
    else store.records.get? sessionId := get?_popRecords _ _
  have sessions : ∀ other, (store.takeGroup groupId).2.groupSessions.get? other =
      if other = groupId then none else store.groupSessions.get? other :=
    get?_pop _ _
  constructor
  · intro sessionId record found
    rw [kept] at found
    split at found
    · cases found
    · exact grouped.keyed sessionId record found
  · intro other listed found
    rw [sessions] at found
    split at found
    · cases found
    · exact grouped.nonempty other listed found
  · intro other listed found
    rw [sessions] at found
    split at found
    · cases found
    · exact grouped.nodup other listed found
  · intro other sessionId
    have before := grouped.grouping other sessionId
    have group := grouped.grouping groupId sessionId
    rw [OrderedDict.getD, sessions, kept]
    by_cases same : other = groupId
    · subst same
      rw [if_pos rfl, getD_none]
      split
      · simp
      · next absent =>
          rw [before] at absent
          simpa using absent
    · rw [if_neg same, ← OrderedDict.getD, before]
      split
      · next member =>
          obtain ⟨record, found, own⟩ := group.mp member
          rw [found]
          simp [own, Ne.symm same]
      · rfl

theorem mem_values_iff {records : Records Paddock Args} :
    record ∈ records.values ↔ ∃ sessionId, records.get? sessionId = some record := by
  constructor
  · intro member
    obtain ⟨⟨sessionId, _⟩, inEntries, rfl⟩ := List.mem_map.mp member
    exact ⟨sessionId, get?_of_mem inEntries⟩
  · rintro ⟨sessionId, found⟩
    exact List.mem_map_of_mem (mem_of_get? found)

theorem Grouped.mem_takeGroup (grouped : Grouped store) (groupId : GroupId)
    (member : record ∈ store.records.values) :
    if record.groupId = groupId then record ∈ (store.takeGroup groupId).1
    else record ∈ (store.takeGroup groupId).2.records.values := by
  obtain ⟨sessionId, found⟩ := mem_values_iff.mp member
  have listed := grouped.grouping groupId sessionId
  have kept : ∀ sessionId, (store.takeGroup groupId).2.records.get? sessionId =
    if sessionId ∈ store.groupSessions.getD groupId [] then none
    else store.records.get? sessionId := get?_popRecords _ _
  split
  · next own =>
      have popped := listed.mpr ⟨record, found, own⟩
      rcases mem_append.mp ((store.perm_takeGroup groupId).mem_iff.mp member) with
        taken | stays
      · exact taken
      · obtain ⟨other, foundOther⟩ := mem_values_iff.mp stays
        rw [kept] at foundOther
        split at foundOther
        · cases foundOther
        · next unlisted =>
            have same : other = sessionId :=
              (grouped.keyed other record foundOther).symm.trans
                (grouped.keyed sessionId record found)
            exact absurd (same ▸ popped) unlisted
  · next foreign =>
      apply mem_values_iff.mpr
      refine ⟨sessionId, ?_⟩
      rw [kept, if_neg, found]
      intro isListed
      obtain ⟨other, foundOther, own⟩ := listed.mp isListed
      rw [found, some_inj] at foundOther
      exact foreign (foundOther ▸ own)

def Owns (tasks : List (InitTask Paddock State)) (record : PrewarmRecord Paddock Args) : Prop :=
  ∃ task, tasks[record.number]? = some task ∧ task.sessionId = record.sessionId ∧
    task.paddock = record.paddock

namespace World

/-- The records not yet given up, `hand` being those on their way between two holders. -/
def live (hand : List (PrewarmRecord Paddock Args)) (world : World Paddock Args State) :
    List (PrewarmRecord Paddock Args) :=
  hand ++ world.store.records.values ++ world.claims.map PendingClaim.record ++
    world.disposals.map Disposal.record

def held (hand : List (PrewarmRecord Paddock Args)) (world : World Paddock Args State)
    (number : Nat) : Nat :=
  ((world.live hand).map PrewarmRecord.number).count number + world.handed.count number +
    world.missed.count number + world.terminated.count number

theorem count_live (world : World Paddock Args State) (number : Nat) :
    ((world.live []).map PrewarmRecord.number).count number =
      world.stored.count number + world.awaited.count number + world.disposing.count number := by
  unfold live stored awaited disposing
  simp only [nil_append, map_append, List.map_map, count_append]
  rfl

end World

structure Sound (hand : List (PrewarmRecord Paddock Args)) (world : World Paddock Args State) :
    Prop where
  grouped : Grouped world.store
  once : ∀ number, world.held hand number = if number < world.tasks.length then 1 else 0
  live : ∀ record ∈ world.live hand, Owns world.tasks record
  handles : ∀ handle ∈ world.handles, ∃ task, world.tasks[handle.number]? = some task ∧
    task.sessionId = handle.sessionId ∧ task.paddock = handle.paddock ∧
      task.status = .returned handle.state
  misses : ∀ record ∈ world.misses, world.status record.number = some .failed
  calls : ∀ call ∈ world.calls, (world.status call.record.number).any InitStatus.done = true
  releasing : ∀ disposal ∈ world.disposals, disposal.stage = .releasing →
    (world.status disposal.record.number).any InitStatus.done = true

theorem sound_idle : Sound [] (World.idle : World Paddock Args State) := by
  constructor
  · exact grouped_empty
  · intro number
    rfl
  · intro record impossible
    cases impossible
  · intro handle impossible
    cases impossible
  · intro record impossible
    cases impossible
  · intro call impossible
    cases impossible
  · intro disposal impossible
    cases impossible

def Later (before after : List (InitTask Paddock State)) : Prop :=
  ∀ (number : Nat) (task : InitTask Paddock State), before[number]? = some task →
    ∃ now : InitTask Paddock State, after[number]? = some now ∧ now.sessionId = task.sessionId ∧
      now.paddock = task.paddock ∧ (task.status.done = true → now.status = task.status)

theorem later_modify (tasks : List (InitTask Paddock State)) (number : Nat)
    (change : InitStatus State → InitStatus State)
    (keeps : ∀ task, tasks[number]? = some task → task.status.done = true →
      change task.status = task.status) :
    Later tasks (tasks.modify number (fun task => { task with status := change task.status })) := by
  intro other task found
  by_cases same : number = other
  · subst same
    refine ⟨{ task with status := change task.status }, ?_, rfl, rfl, keeps task found⟩
    simp [found]
  · refine ⟨task, ?_, rfl, rfl, fun _ => rfl⟩
    simp [same, found]

theorem later_append (tasks new : List (InitTask Paddock State)) : Later tasks (tasks ++ new) := by
  intro number task found
  refine ⟨task, ?_, rfl, rfl, fun _ => rfl⟩
  rw [getElem?_append_left (List.getElem_of_getElem? found).1, found]

theorem cancel_of_done {status : InitStatus State} (done : status.done = true) :
    status.cancel = status := by
  cases status with
  | pending requested => cases done
  | returned state => rfl
  | failed => rfl
  | cancelled => rfl

theorem Owns.later {before after : List (InitTask Paddock State)} (later : Later before after)
    (owns : Owns before record) : Owns after record := by
  obtain ⟨task, found, session, paddock⟩ := owns
  obtain ⟨now, foundNow, sessionNow, paddockNow, _⟩ := later _ task found
  exact ⟨now, foundNow, sessionNow.trans session, paddockNow.trans paddock⟩

theorem status_later {before after : List (InitTask Paddock State)} (later : Later before after)
    {number : Nat} {status : InitStatus State}
    (found : before[number]?.map InitTask.status = some status) (done : status.done = true) :
    after[number]?.map InitTask.status = some status := by
  obtain ⟨task, present, rfl⟩ := map_eq_some_iff.mp found
  obtain ⟨now, presentNow, _, _, kept⟩ := later number task present
  rw [presentNow, map_some, kept done]

theorem any_done_iff (status : Option (InitStatus State)) :
    status.any InitStatus.done = true ↔ ∃ ended, status = some ended ∧ ended.done = true := by
  cases status with
  | none => simp
  | some ended => simp

theorem Sound.grow {new : List (PrewarmRecord Paddock Args)} (sound : Sound hand world)
    {tasks : List (InitTask Paddock State)} (later : Later world.tasks tasks)
    (once : ∀ number, world.held new number = if number < tasks.length then 1 else 0)
    (live : ∀ record ∈ world.live new, Owns tasks record) :
    Sound new { world with tasks := tasks } := by
  have ended : ∀ number, (world.status number).any InitStatus.done = true →
      (tasks[number]?.map InitTask.status).any InitStatus.done = true := by
    intro number done
    obtain ⟨status, found, isDone⟩ := (any_done_iff _).mp done
    exact (any_done_iff _).mpr ⟨status, status_later later found isDone, isDone⟩
  constructor
  · exact sound.grouped
  · exact once
  · exact live
  · intro handle member
    obtain ⟨task, found, session, paddock, status⟩ := sound.handles handle member
    obtain ⟨now, foundNow, sessionNow, paddockNow, kept⟩ := later _ task found
    have isDone : task.status.done = true := by
      rw [status]
      rfl
    exact ⟨now, foundNow, sessionNow.trans session, paddockNow.trans paddock,
      (kept isDone).trans status⟩
  · exact fun record member => status_later later (sound.misses record member) rfl
  · exact fun call member => ended _ (sound.calls call member)
  · exact fun disposal member atRelease => ended _ (sound.releasing disposal member atRelease)

theorem Sound.retask (sound : Sound hand world) {tasks : List (InitTask Paddock State)}
    (later : Later world.tasks tasks) (sameLength : tasks.length = world.tasks.length) :
    Sound hand { world with tasks := tasks } := by
  apply sound.grow later
  · intro number
    rw [sound.once number, sameLength]
  · exact fun record member => (sound.live record member).later later

theorem Sound.scheduleDispose {records : List (PrewarmRecord Paddock Args)}
    (sound : Sound records world) :
    Sound [] (world.scheduleDispose records) := by
  have moved : (world.scheduleDispose records).live [] =
      world.store.records.values ++ world.claims.map PendingClaim.record ++
        (world.disposals.map Disposal.record ++ records) := by
    simp [World.live, World.scheduleDispose, Function.comp_def]
  refine { sound with once := ?_, live := ?_, releasing := ?_ }
  · intro number
    have before := sound.once number
    unfold World.held at before ⊢
    rw [moved]
    change _ + world.handed.count number + world.missed.count number +
      world.terminated.count number = if number < world.tasks.length then 1 else 0
    rw [← before]
    simp only [World.live, map_append, count_append]
    omega
  · intro record member
    apply sound.live
    rw [moved] at member
    simp only [World.live, mem_append] at member ⊢
    tauto
  · intro disposal member atRelease
    rcases mem_append.mp member with old | new
    · exact sound.releasing disposal old atRelease
    · obtain ⟨record, _, rfl⟩ := List.mem_map.mp new
      cases atRelease

theorem Sound.awaitTask (sound : Sound [record] world) (mustCancel : Bool) :
    Sound [] (world.awaitTask record mustCancel) := by
  unfold World.awaitTask
  split
  · next state returned =>
      split
      · exact sound.scheduleDispose
      · refine { sound with once := ?_, live := ?_, handles := ?_ }
        · intro number
          have before := sound.once number
          change _ = if number < world.tasks.length then 1 else 0
          simp only [World.held, World.live, World.hand, World.handed, World.missed,
            World.terminated, map_append, count_append, map_cons, map_nil,
            count_nil] at before ⊢
          omega
        · exact fun other member => sound.live other (mem_cons_of_mem record member)
        · intro handle member
          rcases mem_append.mp member with old | new
          · exact sound.handles handle old
          · cases mem_singleton.mp new
            obtain ⟨task, found, session, paddock⟩ := sound.live record mem_cons_self
            refine ⟨task, found, session, paddock, ?_⟩
            unfold World.status at returned
            rw [found, map_some, some_inj] at returned
            exact returned
  · next failed =>
      split
      · exact sound.scheduleDispose
      · refine { sound with once := ?_, live := ?_, misses := ?_ }
        · intro number
          have before := sound.once number
          simp only [World.held, World.live, World.handed, World.missed,
            World.terminated, map_append, count_append, map_cons, map_nil,
            count_nil] at before ⊢
          omega
        · exact fun other member => sound.live other (mem_cons_of_mem record member)
        · intro other member
          rcases mem_append.mp member with old | new
          · exact sound.misses other old
          · cases mem_singleton.mp new
            exact failed
  · exact sound.scheduleDispose
  · refine { sound with once := ?_, live := ?_ }
    · intro number
      have before := sound.once number
      simp only [World.held, World.live, World.handed, World.missed,
        World.terminated, map_append, count_append, map_cons, map_nil,
        count_nil] at before ⊢
      omega
    · intro other member
      apply sound.live
      simp only [World.live, map_append, map_cons, map_nil, mem_append, mem_singleton] at member ⊢
      tauto

theorem Sound.take (sound : Sound [] world) {claims : List (PendingClaim Paddock Args)}
    (grouped : Grouped store)
    (sorted : (world.store.records.values ++ world.claims.map PendingClaim.record).Perm
      (hand ++ (store.records.values ++ claims.map PendingClaim.record))) :
    Sound hand
      { world with
        store := store
        claims := claims } := by
  have same : (world.live []).Perm (World.live hand
      { world with
        store := store
        claims := claims }) := by
    unfold World.live
    rw [nil_append, append_assoc hand]
    exact sorted.append_right _
  refine { sound with grouped := ?_, once := ?_, live := ?_ }
  · exact grouped
  · intro number
    rw [← sound.once number]
    unfold World.held
    rw [(same.map PrewarmRecord.number).count_eq]
    rfl
  · exact fun record member => sound.live record (same.mem_iff.mpr member)

theorem Sound.takeStore (sound : Sound [] world) (grouped : Grouped store)
    (sorted : world.store.records.values.Perm (hand ++ store.records.values)) :
    Sound hand { world with store := store } := by
  apply sound.take grouped
  rw [← append_assoc]
  exact sorted.append_right _

theorem Sound.takeClaim (sound : Sound [] world) {accepts : PendingClaim Paddock Args → Bool}
    {claim : PendingClaim Paddock Args} (found : world.claims.find? accepts = some claim) :
    Sound [claim.record] { world with claims := world.claims.eraseP accepts } := by
  apply sound.take sound.grouped
  have moved := (Lists.perm_eraseP_of_find? found).map PendingClaim.record
  exact (moved.append_left _).trans perm_middle

theorem records_mustCancel (world : World Paddock Args State) (number : Nat) :
    (world.claims.map (fun claim =>
      if World.isClaimOf number claim then { claim with mustCancel := true } else claim)).map
        PendingClaim.record = world.claims.map PendingClaim.record := by
  rw [List.map_map]
  apply map_congr_left
  intro claim _
  simp only [Function.comp_apply]
  split <;> rfl

theorem records_advance (world : World Paddock Args State) (number : Nat)
    (before after : DisposeStage) :
    (world.advance number before after).disposals.map Disposal.record =
      world.disposals.map Disposal.record := by
  unfold World.advance
  rw [List.map_map]
  apply map_congr_left
  intro disposal _
  simp only [Function.comp_apply]
  split <;> rfl

theorem Sound.relabel (sound : Sound [] world) {claims : List (PendingClaim Paddock Args)}
    {disposals : List (Disposal Paddock Args)}
    (sameClaims : claims.map PendingClaim.record = world.claims.map PendingClaim.record)
    (sameDisposals : disposals.map Disposal.record = world.disposals.map Disposal.record)
    (releasing : ∀ disposal ∈ disposals, disposal.stage = .releasing →
      (world.status disposal.record.number).any InitStatus.done = true) :
    Sound []
      { world with
        claims := claims
        disposals := disposals } := by
  have same : World.live []
      { world with
        claims := claims
        disposals := disposals } = world.live [] := by
    unfold World.live
    rw [sameClaims, sameDisposals]
  refine { sound with once := ?_, live := ?_, releasing := ?_ }
  · intro number
    rw [← sound.once number]
    unfold World.held
    rw [same]
    rfl
  · intro record member
    rw [same] at member
    exact sound.live record member
  · exact releasing

theorem Sound.shelve (sound : Sound [record] world)
    (new : world.store.records.get? record.sessionId = none) :
    Sound [] { world with store := world.store.insert record } := by
  have absent : record.sessionId ∉ world.store.records.keys := by
    intro present
    obtain ⟨other, found⟩ := (mem_keys_iff _ _).mp present
    rw [new] at found
    cases found
  have values : (world.store.insert record).records.values =
      world.store.records.values ++ [record] := by
    unfold PrewarmStore.insert OrderedDict.values
    rw [entries_set_new absent, map_append]
    rfl
  have same : (world.live [record]).Perm
      (World.live [] { world with store := world.store.insert record }) := by
    unfold World.live
    rw [values, nil_append]
    exact (perm_append_comm.append_right _).append_right _
  refine { sound with grouped := ?_, once := ?_, live := ?_ }
  · exact sound.grouped.insert new
  · intro number
    rw [← sound.once number]
    unfold World.held
    rw [(same.map PrewarmRecord.number).count_eq]
    rfl
  · exact fun other member => sound.live other (same.mem_iff.mpr member)

theorem Sound.start (sound : Sound [] world) (sessionId : SessionId) (groupId : GroupId)
    (paddock : Paddock) (envArgs : Args) :
    Sound [] (world.start sessionId groupId paddock envArgs) := by
  unfold World.start
  split
  · exact sound
  · next new =>
      have absent : world.store.records.get? sessionId = none := by
        rw [eq_none_iff_forall_ne_some]
        intro record found
        exact new ((mem_iff _ _).mpr ⟨record, found⟩)
      have grown : Sound
          [{ number := world.tasks.length
             sessionId := sessionId
             groupId := groupId
             paddock := paddock
             envArgs := envArgs }]
          { world with
            tasks := world.tasks ++
              [{ sessionId := sessionId
                 paddock := paddock
                 status := .pending false }] } := by
        apply sound.grow (later_append _ _)
        · intro number
          have before := sound.once number
          simp only [World.held, World.live, map_append, count_append, map_cons,
            map_nil, count_nil, count_singleton, beq_iff_eq,
            length_append, length_singleton] at before ⊢
          split_ifs at before ⊢ <;> omega
        · intro record member
          rcases mem_cons.mp member with rfl | old
          · exact ⟨_, getElem?_concat_length, rfl, rfl⟩
          · exact (sound.live record old).later (later_append _ _)
      exact grown.shelve absent

theorem Sound.claim (sound : Sound [] world) (sessionId : Option SessionId) :
    Sound [] (world.claim sessionId) := by
  unfold World.claim
  split
  · exact sound
  · next record store taken =>
      obtain ⟨present, _, found⟩ := bind_eq_some_iff.mp taken
      exact (sound.takeStore (sound.grouped.take found) (perm_take found)).awaitTask false

theorem Sound.cleanupGroup (sound : Sound [] world) (groupId : GroupId) :
    Sound [] (world.cleanupGroup groupId) :=
  (sound.takeStore (sound.grouped.takeGroup groupId)
    (world.store.perm_takeGroup groupId)).scheduleDispose

theorem Sound.cleanupAll (sound : Sound [] world) : Sound [] world.cleanupAll := by
  apply Sound.scheduleDispose
  apply sound.takeStore grouped_empty
  rw [PrewarmStore.takeAll]
  exact List.Perm.of_eq (append_nil _).symm

theorem Sound.resumeClaim (sound : Sound [] world) (number : Nat) :
    Sound [] (world.resumeClaim number) := by
  unfold World.resumeClaim
  split
  · exact sound
  · next claim found =>
      split
      · exact (sound.takeClaim found).awaitTask claim.mustCancel
      · exact sound

theorem Sound.setStatus (sound : Sound [] world) (number : Nat)
    {change : InitStatus State → InitStatus State}
    (keeps : ∀ task, world.tasks[number]? = some task → task.status.done = true →
      change task.status = task.status) : Sound [] (world.setStatus number change) :=
  sound.retask (later_modify world.tasks number change keeps) (length_modify _ _ _)

theorem Sound.cancelClaim (sound : Sound [] world) (number : Nat) :
    Sound [] (world.cancelClaim number) := by
  unfold World.cancelClaim
  split
  · exact sound
  · split
    · exact sound.relabel (records_mustCancel world number) rfl sound.releasing
    · exact sound.setStatus number (fun _ _ => cancel_of_done)

variable [DecidableEq Paddock]

section

variable (sound : Sound [] world)
include sound

variable (number : Nat)

theorem Sound.finishInit (outcome : InitOutcome State) :
    Sound [] (world.finishInit number outcome) := by
  unfold World.finishInit
  split
  · exact sound
  · next task found =>
      split
      · exact sound
      · next running =>
          have kept : Sound [] (world.setStatus number (fun _ => outcome.status)) := by
            apply sound.setStatus
            intro other foundOther done
            rw [found, some_inj] at foundOther
            exact absurd (foundOther ▸ done) running
          exact { kept with }

omit [DecidableEq Paddock] in
theorem Sound.advance (before after : DisposeStage)
    (ended : after = .releasing → (world.status number).any InitStatus.done = true) :
    Sound [] (world.advance number before after) := by
  apply sound.relabel rfl (records_advance world number before after)
  intro disposal member atRelease
  obtain ⟨old, oldMember, rfl⟩ := List.mem_map.mp member
  split at atRelease
  · next own =>
      have same : old.record.number = number := by
        unfold World.isDisposalOf at own
        simp only [Bool.and_eq_true, beq_iff_eq] at own
        exact own.1
      rw [if_pos own]
      simpa [same] using ended atRelease
  · next other =>
      rw [if_neg other]
      exact sound.releasing old oldMember atRelease

omit [DecidableEq Paddock] in
theorem Sound.beginDispose : Sound [] (world.beginDispose number) := by
  unfold World.beginDispose
  split
  · exact sound
  · apply Sound.advance
    · exact sound.setStatus number (fun _ _ => cancel_of_done)
    · intro impossible
      cases impossible

omit [DecidableEq Paddock] in
theorem Sound.gatherDispose : Sound [] (world.gatherDispose number) := by
  unfold World.gatherDispose
  split
  · next done => exact sound.advance number _ _ (fun _ => done)
  · exact sound

theorem Sound.terminate : Sound [] (world.terminate number) := by
  unfold World.terminate
  split
  · exact sound
  · next disposal found =>
      have moved := (Lists.perm_eraseP_of_find? found).map Disposal.record
      have atRelease : disposal.stage = .releasing := by
        have own := find?_some found
        unfold World.isDisposalOf at own
        simp only [Bool.and_eq_true, beq_iff_eq] at own
        exact own.2
      refine { sound with once := ?_, live := ?_, calls := ?_, releasing := ?_ }
      · intro other
        have before := sound.once other
        have counted := (moved.map PrewarmRecord.number).count_eq other
        change _ = if other < world.tasks.length then 1 else 0
        simp only [map_cons, count_cons] at counted
        simp only [World.held, World.live, World.handed, World.missed, World.terminated,
          map_append, count_append, map_cons, map_nil, count_singleton]
          at before ⊢
        omega
      · intro record member
        apply sound.live
        simp only [World.live, mem_append] at member ⊢
        rcases member with kept | inDisposals
        · exact .inl kept
        · exact .inr (moved.mem_iff.mpr (mem_cons_of_mem _ inDisposals))
      · intro call member
        rcases mem_append.mp member with old | new
        · exact sound.calls call old
        · cases mem_singleton.mp new
          exact sound.releasing disposal (mem_of_find?_eq_some found) atRelease
      · exact fun other member => sound.releasing other (mem_of_mem_eraseP member)

theorem Sound.step (event : Event Paddock Args State) : Sound [] (step world event) := by
  cases event with
  | start sample uuid4 groupId paddock envArgs => exact sound.start _ groupId paddock envArgs
  | claim sessionId => exact sound.claim sessionId
  | cancelClaim number => exact sound.cancelClaim number
  | cleanupGroup groupId => exact sound.cleanupGroup groupId
  | cleanupAll => exact sound.cleanupAll
  | finishInit number outcome => exact sound.finishInit number outcome
  | resumeClaim number => exact sound.resumeClaim number
  | beginDispose number => exact sound.beginDispose number
  | gatherDispose number => exact sound.gatherDispose number
  | terminate number => exact sound.terminate number

end

end Dressage.Rollout.Prewarm

/-
Which sandbox a terminate call takes down.

The paddock keeps one sandbox per session id. The store only refuses a session id that is among
its records: a prewarm that a claimer awaits or that is being disposed of does not count, and
its dispose then meets the sandbox of its successor.
-/

import Dressage.Rollout.PrewarmOwnership

namespace Dressage.Rollout.Prewarm

open Lib List OrderedDict World

variable {Paddock Args State : Type}

def InitStatus.up : InitStatus State → Bool
  | .returned _ => true
  | _ => false

def World.ownSandbox (world : World Paddock Args State) (number : Nat) : Option Nat :=
  if (world.status number).any InitStatus.up then some number else none

structure Moves (hand : List (PrewarmRecord Paddock Args))
    (before after : World Paddock Args State) : Prop where
  live : ∀ record ∈ after.live [], record ∈ before.live hand
  tasks : after.tasks = before.tasks
  sandboxes : after.sandboxes = before.sandboxes
  calls : after.calls = before.calls

section

variable (world : World Paddock Args State)
include world

theorem moves_scheduleDispose (records : List (PrewarmRecord Paddock Args)) :
    Moves records world (world.scheduleDispose records) := by
  refine ⟨?_, rfl, rfl, rfl⟩
  intro record member
  simp only [live, scheduleDispose, map_append, map_map, mem_append,
    mem_map, Function.comp_apply] at member ⊢
  rcases member with ((nothing | inStore) | inClaims) | old | ⟨other, new, rfl⟩
  · cases nothing
  · exact .inl (.inl (.inr inStore))
  · exact .inl (.inr inClaims)
  · exact .inr old
  · exact .inl (.inl (.inl new))

theorem moves_awaitTask (record : PrewarmRecord Paddock Args) (mustCancel : Bool) :
    Moves [record] world (world.awaitTask record mustCancel) := by
  unfold awaitTask
  split
  · split
    · exact moves_scheduleDispose world [record]
    · exact ⟨fun other member => mem_cons_of_mem record member, rfl, rfl, rfl⟩
  · split
    · exact moves_scheduleDispose world [record]
    · exact ⟨fun other member => mem_cons_of_mem record member, rfl, rfl, rfl⟩
  · exact moves_scheduleDispose world [record]
  · refine ⟨?_, rfl, rfl, rfl⟩
    intro other member
    simp only [live, map_append, map_cons, map_nil, mem_append, mem_singleton] at member ⊢
    tauto

theorem moves_claim (sessionId : Option SessionId) : Moves [] world (world.claim sessionId) := by
  unfold claim
  split
  · exact ⟨fun _ member => member, rfl, rfl, rfl⟩
  · next record store taken =>
      obtain ⟨present, _, found⟩ := Option.bind_eq_some_iff.mp taken
      have moved := moves_awaitTask { world with store := store } record false
      have values := PrewarmStore.perm_take found
      refine ⟨?_, moved.tasks, moved.sandboxes, moved.calls⟩
      intro other member
      have inHand := moved.live other member
      simp only [live, mem_append, values.mem_iff, mem_cons] at inHand ⊢
      tauto

theorem moves_cleanup {records : List (PrewarmRecord Paddock Args)}
    {store : PrewarmStore Paddock Args}
    (sorted : world.store.records.values.Perm (records ++ store.records.values)) :
    Moves [] world ({ world with store := store }.scheduleDispose records) := by
  have moved := moves_scheduleDispose { world with store := store } records
  refine ⟨?_, moved.tasks, moved.sandboxes, moved.calls⟩
  intro other member
  have inHand := moved.live other member
  simp only [live, mem_append, sorted.mem_iff] at inHand ⊢
  tauto

theorem moves_resumeClaim (number : Nat) : Moves [] world (world.resumeClaim number) := by
  unfold resumeClaim
  split
  · exact ⟨fun _ member => member, rfl, rfl, rfl⟩
  · next claim found =>
      split
      · have moved := moves_awaitTask
          { world with claims := world.claims.eraseP (isClaimOf number) } claim.record
          claim.mustCancel
        have claims := (Lists.perm_eraseP_of_find? found).map PendingClaim.record
        refine ⟨?_, moved.tasks, moved.sandboxes, moved.calls⟩
        intro other member
        have inHand := moved.live other member
        simp only [live, mem_append, claims.mem_iff, map_cons, mem_cons] at inHand ⊢
        tauto
      · exact ⟨fun _ member => member, rfl, rfl, rfl⟩

theorem moves_relabel {claims : List (PendingClaim Paddock Args)}
    {disposals : List (Disposal Paddock Args)}
    (sameClaims : claims.map PendingClaim.record = world.claims.map PendingClaim.record)
    (sameDisposals : disposals.map Disposal.record = world.disposals.map Disposal.record) :
    Moves [] world
      { world with
        claims := claims
        disposals := disposals } := by
  refine ⟨?_, rfl, rfl, rfl⟩
  intro record member
  unfold live at member ⊢
  rwa [sameClaims, sameDisposals] at member

end

/-- No two prewarms in use share a session id, and the paddock keeps their own sandboxes. -/
structure Wired (world : World Paddock Args State) [DecidableEq Paddock] : Prop where
  alone : ∀ record ∈ world.live [], ∀ other ∈ world.live [],
    record.sessionId = other.sessionId → record.paddock = other.paddock →
      record.number = other.number
  up : ∀ record ∈ world.live [],
    world.sandboxes.get? (record.paddock, record.sessionId) = world.ownSandbox record.number
  calls : ∀ call ∈ world.calls, call.sandbox = world.ownSandbox call.record.number

def SessionFree [DecidableEq Paddock] (world : World Paddock Args State) (paddock : Paddock)
    (sessionId : SessionId) : Prop :=
  world.sandboxes.get? (paddock, sessionId) = none ∧
    (∀ claim ∈ world.claims, claim.record.sessionId = sessionId → claim.record.paddock ≠ paddock) ∧
    ∀ disposal ∈ world.disposals, disposal.record.sessionId = sessionId →
      disposal.record.paddock ≠ paddock

/-- A start is refused, or its session id is free. -/
def StartsFree [DecidableEq Paddock] (world : World Paddock Args State) :
    Event Paddock Args State → Prop
  | .start sample uuid4 _ paddock _ =>
    ensureBlackboxSessionId sample uuid4 ∈ world.store.records ∨
      SessionFree world paddock (ensureBlackboxSessionId sample uuid4)
  | _ => True

instance [DecidableEq Paddock] (world : World Paddock Args State) (paddock : Paddock)
    (sessionId : SessionId) : Decidable (SessionFree world paddock sessionId) :=
  inferInstanceAs (Decidable (_ ∧ _ ∧ _))

instance [DecidableEq Paddock] (world : World Paddock Args State) :
    (event : Event Paddock Args State) → Decidable (StartsFree world event)
  | .start _ _ _ _ _ => inferInstanceAs (Decidable (_ ∨ _))
  | .claim _ => inferInstanceAs (Decidable True)
  | .cancelClaim _ => inferInstanceAs (Decidable True)
  | .cleanupGroup _ => inferInstanceAs (Decidable True)
  | .cleanupAll => inferInstanceAs (Decidable True)
  | .finishInit _ _ => inferInstanceAs (Decidable True)
  | .resumeClaim _ => inferInstanceAs (Decidable True)
  | .beginDispose _ => inferInstanceAs (Decidable True)
  | .gatherDispose _ => inferInstanceAs (Decidable True)
  | .terminate _ => inferInstanceAs (Decidable True)

variable [DecidableEq Paddock]

theorem wired_idle : Wired (idle : World Paddock Args State) := by
  constructor
  · intro record impossible
    cases impossible
  · intro record impossible
    cases impossible
  · intro call impossible
    cases impossible

theorem Wired.of_moves {before after : World Paddock Args State} (wired : Wired before)
    (moves : Moves [] before after) : Wired after := by
  have own : ∀ number, after.ownSandbox number = before.ownSandbox number := by
    intro number
    unfold ownSandbox status
    rw [moves.tasks]
  constructor
  · exact fun record member other otherMember =>
      wired.alone record (moves.live record member) other (moves.live other otherMember)
  · intro record member
    rw [moves.sandboxes, own]
    exact wired.up record (moves.live record member)
  · intro call member
    rw [own]
    exact wired.calls call (moves.calls ▸ member)

omit [DecidableEq Paddock] in
theorem status_setStatus (world : World Paddock Args State) (number other : Nat)
    (change : InitStatus State → InitStatus State) :
    (world.setStatus number change).status other =
      if number = other then (world.status other).map change else world.status other := by
  unfold status setStatus
  rw [getElem?_modify]
  split
  · cases world.tasks[other]? with
    | none => rfl
    | some task => rfl
  · cases world.tasks[other]? with
    | none => rfl
    | some task => rfl

omit [DecidableEq Paddock] in
theorem ownSandbox_cancel (world : World Paddock Args State) (number other : Nat) :
    (world.setStatus number InitStatus.cancel).ownSandbox other = world.ownSandbox other := by
  unfold ownSandbox
  rw [status_setStatus]
  by_cases same : number = other
  · rw [if_pos same]
    cases world.status other with
    | none => rfl
    | some status =>
      cases status with
      | pending requested => rfl
      | returned state => rfl
      | failed => rfl
      | cancelled => rfl
  · rw [if_neg same]

variable {world : World Paddock Args State}

theorem Wired.cancel (wired : Wired world) (number : Nat) :
    Wired (world.setStatus number InitStatus.cancel) := by
  constructor
  · exact wired.alone
  · intro record member
    rw [ownSandbox_cancel]
    exact wired.up record member
  · intro call member
    rw [ownSandbox_cancel]
    exact wired.calls call member

omit [DecidableEq Paddock] in
theorem Owns.lt {tasks : List (InitTask Paddock State)} {record : PrewarmRecord Paddock Args}
    (owns : Owns tasks record) : record.number < tasks.length := by
  obtain ⟨task, found, _, _⟩ := owns
  exact (List.getElem_of_getElem? found).1

omit [DecidableEq Paddock] in
theorem lt_of_done {number : Nat} (done : (world.status number).any InitStatus.done = true) :
    number < world.tasks.length := by
  obtain ⟨status, found, _⟩ := (any_done_iff _).mp done
  obtain ⟨task, present, _⟩ := Option.map_eq_some_iff.mp found
  exact (List.getElem_of_getElem? present).1

section

variable (sound : Sound [] world)
include sound

theorem apart_of_free {sessionId : SessionId} {paddock : Paddock}
    (new : sessionId ∉ world.store.records) (free : SessionFree world paddock sessionId)
    {record : PrewarmRecord Paddock Args} (member : record ∈ world.live [])
    (same : record.sessionId = sessionId) :
    record.paddock ≠ paddock := by
  simp only [live, nil_append, mem_append, mem_map] at member
  rcases member with (inStore | ⟨claim, inClaims, rfl⟩) | ⟨disposal, inDisposals, rfl⟩
  · obtain ⟨key, found⟩ := mem_values_iff.mp inStore
    have keyed := sound.grouped.keyed key record found
    have present : sessionId ∈ world.store.records :=
      (mem_iff _ _).mpr ⟨record, by rwa [← same, keyed]⟩
    exact absurd present new
  · exact free.2.1 claim inClaims same
  · exact free.2.2 disposal inDisposals same

theorem Wired.start (wired : Wired world) {sessionId : SessionId} {paddock : Paddock}
    (free : sessionId ∈ world.store.records ∨ SessionFree world paddock sessionId)
    (groupId : GroupId) (envArgs : Args) :
    Wired (world.start sessionId groupId paddock envArgs) := by
  unfold World.start
  split
  · exact wired
  · next new =>
      have free := free.resolve_left new
      have old : ∀ number < world.tasks.length, ∀ task : InitTask Paddock State,
          ((world.tasks ++ [task])[number]?.map InitTask.status) = world.status number := by
        intro number lower task
        rw [getElem?_append_left lower]
        rfl
      have split : ∀ (record : PrewarmRecord Paddock Args) (fresh : PrewarmRecord Paddock Args),
          record ∈ live [] { world with store := world.store.insert fresh } →
            record = fresh ∨ record ∈ world.live [] := by
        intro record fresh member
        simp only [live, nil_append, mem_append] at member ⊢
        rcases member with (inStore | inClaims) | inDisposals
        · obtain ⟨entry, inEntries, rfl⟩ := mem_map.mp inStore
          rcases mem_entries_set inEntries with same | kept
          · exact .inl (congrArg Prod.snd same)
          · exact .inr (.inl (.inl (mem_map_of_mem kept)))
        · exact .inr (.inl (.inr inClaims))
        · exact .inr (.inr inDisposals)
      constructor
      · intro record member other otherMember sameSession samePaddock
        rcases split record _ member with rfl | inUse
        · rcases split other _ otherMember with rfl | otherInUse
          · rfl
          · exact absurd samePaddock.symm (apart_of_free sound new free otherInUse sameSession.symm)
        · rcases split other _ otherMember with rfl | otherInUse
          · exact absurd samePaddock (apart_of_free sound new free inUse sameSession)
          · exact wired.alone record inUse other otherInUse sameSession samePaddock
      · intro record member
        unfold ownSandbox status
        rcases split record _ member with rfl | inUse
        · rw [getElem?_concat_length]
          exact free.1
        · rw [old _ (sound.live record inUse).lt]
          exact wired.up record inUse
      · intro call member
        unfold ownSandbox status
        rw [old _ (lt_of_done (sound.calls call member))]
        exact wired.calls call member

omit [DecidableEq Paddock] in
theorem Sound.exists_live {number : Nat} {task : InitTask Paddock State}
    (found : world.tasks[number]? = some task) (running : ¬ task.status.done = true) :
    ∃ record ∈ world.live [], record.number = number ∧
      record.sessionId = task.sessionId ∧ record.paddock = task.paddock := by
  have lower := (List.getElem_of_getElem? found).1
  have status : world.status number = some task.status := by
    unfold status
    rw [found]
    rfl
  have notHanded : world.handed.count number = 0 := by
    apply count_eq_zero.mpr
    intro member
    obtain ⟨handle, inHandles, same⟩ := mem_map.mp member
    obtain ⟨other, foundOther, _, _, returned⟩ := sound.handles handle inHandles
    rw [same, found, Option.some_inj] at foundOther
    rw [foundOther, returned] at running
    exact running rfl
  have notMissed : world.missed.count number = 0 := by
    apply count_eq_zero.mpr
    intro member
    obtain ⟨record, inMisses, same⟩ := mem_map.mp member
    have failed := sound.misses record inMisses
    rw [same, status, Option.some_inj] at failed
    rw [failed] at running
    exact running rfl
  have notTerminated : world.terminated.count number = 0 := by
    apply count_eq_zero.mpr
    intro member
    obtain ⟨call, inCalls, same⟩ := mem_map.mp member
    have done := sound.calls call inCalls
    rw [same, status] at done
    exact running done
  have once := sound.once number
  rw [if_pos lower, held, notHanded, notMissed, notTerminated] at once
  have positive : 0 < ((world.live []).map PrewarmRecord.number).count number := by omega
  obtain ⟨record, member, same⟩ := mem_map.mp (count_pos_iff.mp positive)
  obtain ⟨other, foundOther, session, paddock⟩ := sound.live record member
  rw [same, found, Option.some_inj] at foundOther
  subst foundOther
  exact ⟨record, member, same, session.symm, paddock.symm⟩

theorem Wired.finishInit (wired : Wired world) (number : Nat) (outcome : InitOutcome State) :
    Wired (world.finishInit number outcome) := by
  unfold World.finishInit
  split
  · exact wired
  · next task found =>
      split
      · exact wired
      · next running =>
          obtain ⟨record, member, own, session, paddock⟩ := sound.exists_live found running
          have statusNow : (world.setStatus number (fun _ => outcome.status)).status number =
              some outcome.status := by
            rw [status_setStatus, if_pos rfl]
            unfold status
            rw [found]
            rfl
          have kept : ∀ other ≠ number,
              (world.setStatus number (fun _ => outcome.status)).ownSandbox other =
                world.ownSandbox other := by
            intro other different
            unfold ownSandbox
            rw [status_setStatus, if_neg (Ne.symm different)]
          constructor
          · exact wired.alone
          · intro other otherMember
            change _ = (world.setStatus number (fun _ => outcome.status)).ownSandbox other.number
            by_cases same : other.number = number
            · obtain ⟨now, foundNow, sessionNow, paddockNow⟩ := sound.live other otherMember
              rw [same, found, Option.some_inj] at foundNow
              subst foundNow
              have before := wired.up other otherMember
              rw [← sessionNow, ← paddockNow, same] at before ⊢
              unfold ownSandbox at before ⊢
              rw [statusNow]
              cases outcome with
              | returned state => exact get?_set_self _ _ _
              | raised cancellation created =>
                have ended : (some (InitOutcome.raised cancellation created :
                    InitOutcome State).status).any InitStatus.up = false := by
                  cases cancellation
                  · rfl
                  · rfl
                have down : (world.status number).any InitStatus.up = false := by
                  unfold status
                  rw [found]
                  cases status : task.status with
                  | pending requested => simp [status, InitStatus.up]
                  | returned state => exact absurd (by rw [status]; rfl) running
                  | failed => simp [status, InitStatus.up]
                  | cancelled => simp [status, InitStatus.up]
                rw [ended]
                rw [down] at before
                cases created with
                | true => exact get?_pop_self _ _
                | false => exact before
            · have otherKey :
                  (other.paddock, other.sessionId) ≠ (task.paddock, task.sessionId) := by
                intro sameKey
                rw [Prod.mk.injEq] at sameKey
                have sameNumber := wired.alone other otherMember record member
                  (sameKey.2.trans session.symm) (sameKey.1.trans paddock.symm)
                exact same (sameNumber.trans own)
              rw [kept _ same, ← wired.up other otherMember]
              cases outcome with
              | returned state => exact get?_set_of_ne _ _ otherKey
              | raised cancellation created =>
                cases created with
                | true => exact get?_pop_of_ne _ otherKey
                | false => rfl
          · intro call inCalls
            have different : call.record.number ≠ number := by
              intro same
              have done := sound.calls call inCalls
              unfold status at done
              rw [same, found] at done
              exact running done
            exact (wired.calls call inCalls).trans (kept _ different).symm

theorem Wired.terminate (wired : Wired world) (number : Nat) : Wired (world.terminate number) := by
  have after := sound.terminate number
  revert after
  unfold World.terminate
  split
  · exact fun _ => wired
  · next disposal found =>
      intro after
      have moved := (Lists.perm_eraseP_of_find? found).map Disposal.record
      have inUse : disposal.record ∈ world.live [] :=
        mem_append_right _ (mem_map_of_mem (mem_of_find?_eq_some found))
      have kept : ∀ record, record ∈ live []
          { world with
            disposals := world.disposals.eraseP (isDisposalOf number .releasing) } →
          record ∈ world.live [] := by
        intro record member
        simp only [live, nil_append, mem_append] at member ⊢
        rcases member with inStore | inDisposals
        · exact .inl inStore
        · exact .inr (moved.mem_iff.mpr (mem_cons_of_mem _ inDisposals))
      constructor
      · exact fun record member other otherMember =>
          wired.alone record (kept record member) other (kept other otherMember)
      · intro record member
        have different : record.number ≠ disposal.record.number := by
          intro same
          have once := after.once record.number
          have listed : record.number ∈ (live [] _).map PrewarmRecord.number :=
            mem_map_of_mem member
          have counted := count_pos_iff.mpr listed
          simp only [held, terminated, map_append, map_cons, map_nil,
            count_append, count_singleton, same, beq_self_eq_true, if_true]
            at once counted
          split_ifs at once
          omega
        have otherKey : (record.paddock, record.sessionId) ≠
            (disposal.record.paddock, disposal.record.sessionId) := by
          intro same
          rw [Prod.mk.injEq] at same
          exact different (wired.alone record (kept record member) disposal.record inUse same.2
            same.1)
        change (world.sandboxes.pop _).get? _ = _
        rw [get?_pop_of_ne _ otherKey]
        exact wired.up record (kept record member)
      · intro call member
        rcases mem_append.mp member with old | new
        · exact wired.calls call old
        · cases mem_singleton.mp new
          exact wired.up disposal.record inUse

theorem Wired.step (wired : Wired world) {event : Event Paddock Args State}
    (free : StartsFree world event) :
    Wired (step world event) := by
  cases event with
  | start sample uuid4 groupId paddock envArgs => exact wired.start sound free groupId envArgs
  | claim sessionId => exact wired.of_moves (moves_claim world sessionId)
  | cancelClaim number =>
    change Wired (world.cancelClaim number)
    unfold cancelClaim
    split
    · exact wired
    · split
      · apply wired.of_moves
        exact moves_relabel world (records_mustCancel world number) rfl
      · exact wired.cancel number
  | cleanupGroup groupId =>
    exact wired.of_moves (moves_cleanup world (world.store.perm_takeGroup groupId))
  | cleanupAll =>
    apply wired.of_moves
    apply moves_cleanup
    rw [PrewarmStore.takeAll]
    exact List.Perm.of_eq (append_nil _).symm
  | finishInit number outcome => exact wired.finishInit sound number outcome
  | resumeClaim number => exact wired.of_moves (moves_resumeClaim world number)
  | beginDispose number =>
    change Wired (world.beginDispose number)
    unfold beginDispose
    split
    · exact wired
    · apply (wired.cancel number).of_moves
      exact moves_relabel _ rfl (records_advance _ number .scheduled .gathering)
  | gatherDispose number =>
    change Wired (world.gatherDispose number)
    unfold gatherDispose
    split
    · exact wired.of_moves (moves_relabel _ rfl (records_advance _ number .gathering .releasing))
    · exact wired
  | terminate number => exact wired.terminate sound number

end

end Dressage.Rollout.Prewarm

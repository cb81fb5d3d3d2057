/-
Resets and the slots that somebody holds.

A queued reset is stale only if the slot's generation has moved on since it was scheduled. A
late health answer and a manual restart leave resets that are still current when the slot is
leased next, and so does a start that is still to run. As long as a slot is leased only when no
such task is left on it, holders are safe.
-/

import Mathlib.Data.List.Lemmas
import Dressage.Sandbox.Supervisor

namespace Dressage.Sandbox

open Lib List Option

structure SlotRuntime.Quiet (slot : SlotRuntime) : Prop where
  noPendingStart : slot.pendingStarts = 0
  noRunningStart : slot.runningStarts = 0
  noRunningReset : slot.runningReset = none
  queuedStale : ∀ expected ∈ slot.queuedResets, slot.isStale expected = true

def SlotRuntime.LeaseMatchesStatus (slot : SlotRuntime) : Prop :=
  slot.leaseId ≠ none ↔ slot.status = .leased ∨ slot.status = .lost

namespace Supervisor

variable {state : Supervisor}

structure HoldersSpared (state : Supervisor) : Prop where
  leases : ∀ slot ∈ state.slots, slot.LeaseMatchesStatus
  untouched : ∀ touch ∈ state.touches, touch.holders = []
  exclusive : ∀ first ∈ state.holdings, ∀ second ∈ state.holdings,
    first.slotId = second.slotId → first.trajectoryId = second.trajectoryId

def LeasesQuietSlot (state : Supervisor) : Action → Prop
  | .acquire trajectoryId =>
    state.slotForTrajectory trajectoryId = none →
      ∀ (slotId : Nat) slot, state.firstAvailable = some slotId → state.slots[slotId]? = some slot →
        slot.Quiet
  | _ => True

structure SlotSound (slot : SlotRuntime) : Prop where
  lease : slot.LeaseMatchesStatus
  heldQuiet : slot.leaseId ≠ none → slot.Quiet

structure Sound (state : Supervisor) : Prop where
  slots : ∀ (slotId : Nat) slot, state.slots[slotId]? = some slot → SlotSound slot
  -- There is one question at a time, so a slot that is lost is not being asked.
  probe : ∀ (slotId : Nat) slot, state.probed = some slotId → state.slots[slotId]? = some slot →
    slot.status ≠ .lost
  held : ∀ holding ∈ state.holdings, ∃ slot, state.slots[holding.slotId]? = some slot ∧
    slot.leaseId = some holding.leaseId ∧ slot.trajectoryId = some holding.trajectoryId
  untouched : ∀ touch ∈ state.touches, touch.holders = []

theorem Sound.spared (sound : Sound state) : HoldersSpared state := by
  refine { leases := ?_, untouched := sound.untouched, exclusive := ?_ }
  · intro slot member
    obtain ⟨slotId, found⟩ := mem_iff_getElem?.mp member
    exact (sound.slots slotId slot found).lease
  · intro first firstHeld second secondHeld same
    obtain ⟨slot, found, _, trajectory⟩ := sound.held first firstHeld
    obtain ⟨other, found', _, trajectory'⟩ := sound.held second secondHeld
    rw [same, found', some_inj] at found
    subst found
    rw [trajectory', some_inj] at trajectory
    exact trajectory.symm

theorem sound_initial (nodeId : String) (capacity : Nat) : Sound (initial nodeId capacity) := by
  have free : SlotSound SlotRuntime.new := by
    constructor
    · simp [SlotRuntime.LeaseMatchesStatus, SlotRuntime.new]
    · intro leased
      exact absurd rfl leased
  constructor
  · intro slotId slot found
    have same : slot = SlotRuntime.new := eq_of_mem_replicate (mem_of_getElem? found)
    rw [same]
    exact free
  · intro slotId slot probed
    cases probed
  · intro holding member
    cases member
  · intro touch member
    cases member

theorem getElem?_updateSlot (slotId other : Nat) (change : SlotRuntime → SlotRuntime) :
    (state.updateSlot slotId change).slots[other]? =
      (state.slots[other]?).map (fun slot => if slotId = other then change slot else slot) := by
  unfold updateSlot
  rw [getElem?_modify]
  cases state.slots[other]? <;> rfl

variable {slotId : Nat} {slot : SlotRuntime}

section

variable (sound : Sound state)
include sound

theorem Sound.updateFree {change : SlotRuntime → SlotRuntime}
    (free : ∀ slot, state.slots[slotId]? = some slot → slot.leaseId = none)
    (stays : ∀ slot, state.slots[slotId]? = some slot → (change slot).leaseId = none ∧
      (change slot).status ≠ .leased ∧ (change slot).status ≠ .lost) :
    Sound (state.updateSlot slotId change) := by
  refine { slots := ?_, probe := ?_, held := ?_, untouched := sound.untouched }
  · intro other slot found
    rw [getElem?_updateSlot, map_eq_some_iff] at found
    obtain ⟨previous, before, rfl⟩ := found
    split
    · rename_i same
      subst same
      obtain ⟨noLease, notLeased, notLost⟩ := stays previous before
      refine { lease := ?_, heldQuiet := fun leased => absurd noLease leased }
      simp [SlotRuntime.LeaseMatchesStatus, noLease, notLeased, notLost]
    · exact sound.slots other previous before
  · intro other slot probed found
    rw [getElem?_updateSlot, map_eq_some_iff] at found
    obtain ⟨previous, before, rfl⟩ := found
    split
    · rename_i same
      subst same
      exact (stays previous before).2.2
    · exact sound.probe other previous probed before
  · intro holding member
    obtain ⟨slot, found, lease, trajectory⟩ := sound.held holding member
    refine ⟨slot, ?_, lease, trajectory⟩
    rw [getElem?_updateSlot, found, map_some]
    split
    · rename_i same
      subst same
      rw [free slot found] at lease
      cases lease
    · rfl

theorem Sound.touchFree (kind : TouchKind)
    (free : ∀ slot, state.slots[slotId]? = some slot → slot.leaseId = none) :
    Sound (state.touch slotId kind) := by
  refine { slots := sound.slots, probe := sound.probe, held := sound.held, untouched := ?_ }
  intro touch member
  rcases mem_append.mp member with old | new
  · exact sound.untouched touch old
  · rw [mem_singleton] at new
    subst new
    apply filter_eq_nil_iff.mpr
    intro holding held atSlot
    obtain ⟨slot, found, lease, _⟩ := sound.held holding held
    rw [decide_eq_true_eq] at atSlot
    rw [atSlot] at found
    rw [free slot found] at lease
    cases lease

theorem Sound.dropHoldings (kept : Holding → Bool) :
    Sound { state with holdings := state.holdings.filter kept } :=
  { sound with
    held := fun holding member => sound.held holding (mem_of_mem_filter member) }

theorem Sound.free_of_active (found : state.slots[slotId]? = some slot) (active : ¬ slot.Quiet) :
    ∀ other, state.slots[slotId]? = some other → other.leaseId = none := by
  intro other again
  rw [found, some_inj] at again
  subst again
  by_contra leased
  exact active ((sound.slots slotId slot found).heldQuiet leased)

end

theorem of_findIdx? {slots : List SlotRuntime} {test : SlotRuntime → Bool}
    (found : slots.findIdx? test = some slotId) :
    ∃ slot, slots[slotId]? = some slot ∧ test slot = true := by
  obtain ⟨inside, holds, _⟩ := findIdx?_eq_some_iff_getElem.mp found
  exact ⟨slots[slotId], getElem?_eq_getElem inside, holds⟩

section

variable (sound : Sound state)

include sound

theorem Sound.hold {leaseId : LeaseId} {trajectoryId : String}
    (found : state.slots[slotId]? = some slot) (lease : slot.leaseId = some leaseId)
    (trajectory : slot.trajectoryId = some trajectoryId) :
    Sound (state.hold slotId leaseId trajectoryId) := by
  refine
    { sound with
      held := ?_ }
  intro holding member
  rcases mem_append.mp member with old | new
  · exact sound.held holding old
  · rw [mem_singleton] at new
    subst new
    exact ⟨slot, found, lease, trajectory⟩

theorem Sound.leaseSlot (trajectoryId : String) (found : state.slots[slotId]? = some slot)
    (free : slot.leaseId = none) (quiet : slot.Quiet) :
    Sound (state.leaseSlot slotId trajectoryId) := by
  have changed : (state.leaseSlot slotId trajectoryId).slots =
    (state.updateSlot slotId (fun slot =>
      { slot with
        status := .leased
        leaseId := some state.newLeaseId
        trajectoryId := some trajectoryId })).slots := rfl
  refine { slots := ?_, probe := ?_, held := ?_, untouched := sound.untouched }
  · intro other current after
    rw [changed, getElem?_updateSlot, map_eq_some_iff] at after
    obtain ⟨previous, before, rfl⟩ := after
    split
    · rename_i same
      subst same
      rw [found, some_inj] at before
      subst before
      refine { lease := ?_, heldQuiet := fun _ => ?_ }
      · simp [SlotRuntime.LeaseMatchesStatus]
      · exact { quiet with }
    · exact sound.slots other previous before
  · intro other current probed after
    rw [changed, getElem?_updateSlot, map_eq_some_iff] at after
    obtain ⟨previous, before, rfl⟩ := after
    split
    · simp
    · exact sound.probe other previous probed before
  · intro holding member
    obtain ⟨other, before, lease, trajectory⟩ := sound.held holding member
    refine ⟨other, ?_, lease, trajectory⟩
    rw [changed, getElem?_updateSlot, before, map_some]
    split
    · rename_i same
      rw [← same, found, some_inj] at before
      subst before
      rw [free] at lease
      cases lease
    · rfl

theorem Sound.acquire (trajectoryId : String)
    (admitted : LeasesQuietSlot state (.acquire trajectoryId)) :
    Sound (state.acquire trajectoryId).2 := by
  unfold Supervisor.acquire
  cases existing : state.slotForTrajectory trajectoryId with
  | some slotId =>
    obtain ⟨slot, found, test⟩ := of_findIdx? existing
    rw [decide_eq_true_eq] at test
    simp only [found, bind_some]
    cases lease : slot.leaseId with
    | none => exact sound
    | some leaseId => exact sound.hold found lease test.1
  | none =>
    cases available : state.firstAvailable with
    | none => exact sound
    | some slotId =>
      obtain ⟨slot, found, test⟩ := of_findIdx? available
      rw [SlotRuntime.isAvailable, decide_eq_true_eq] at test
      have quiet := admitted existing slotId slot available found
      have leased := sound.leaseSlot trajectoryId found test.2 quiet
      have after : (state.leaseSlot slotId trajectoryId).slots[slotId]? = some
          { slot with
            status := .leased
            leaseId := some state.newLeaseId
            trajectoryId := some trajectoryId } := by
        simp only [Supervisor.leaseSlot, getElem?_modify, found]
        rfl
      exact leased.hold after rfl rfl

theorem Sound.release (leaseId : Option LeaseId) (trajectoryId : Option String) :
    Sound (state.release leaseId trajectoryId) := by
  unfold Supervisor.release
  have kept := sound.dropHoldings (fun holding =>
    !Holding.isReturnedBy leaseId trajectoryId holding)
  cases located : state.slotForLease leaseId trajectoryId with
  | none => exact kept
  | some slotId =>
    obtain ⟨slot, found, test⟩ := of_findIdx? located
    rw [Bool.and_eq_true] at test
    refine { slots := ?_, probe := ?_, held := ?_, untouched := sound.untouched }
    · intro other current after
      rw [getElem?_updateSlot, map_eq_some_iff] at after
      obtain ⟨previous, before, rfl⟩ := after
      split
      · refine { lease := ?_, heldQuiet := fun leased => absurd rfl leased }
        simp [SlotRuntime.LeaseMatchesStatus, releaseSlot]
      · exact sound.slots other previous before
    · intro other current probed after
      rw [getElem?_updateSlot, map_eq_some_iff] at after
      obtain ⟨previous, before, rfl⟩ := after
      split
      · simp [releaseSlot]
      · exact sound.probe other previous probed before
    · intro holding member
      obtain ⟨current, before, lease, trajectory⟩ := kept.held holding member
      refine ⟨current, ?_, lease, trajectory⟩
      rw [getElem?_updateSlot, before, map_some]
      split
      · rename_i same
        have notReturned := (mem_filter.mp member).2
        rw [← same] at before
        change state.slots[slotId]? = some current at before
        rw [found, some_inj] at before
        subst before
        exfalso
        cases leaseId with
        | some id =>
          simp only [lease, decide_eq_true_eq, some_inj] at test
          simp [Holding.isReturnedBy, test.2] at notReturned
        | none =>
          simp only [trajectory, decide_eq_true_eq] at test
          simp [Holding.isReturnedBy, test.2.2] at notReturned
      · rfl

theorem Sound.forceRelease (slotId : Nat) (leaseId : Option LeaseId) :
    Sound (state.forceRelease slotId leaseId) := by
  unfold Supervisor.forceRelease
  split
  · exact sound
  · exact sound.release _ _

theorem Sound.restartSlot (slotId : Nat) : Sound (state.restartSlot slotId) := by
  refine { slots := ?_, probe := ?_, held := ?_, untouched := sound.untouched }
  · intro other current after
    rw [Supervisor.restartSlot, getElem?_updateSlot, map_eq_some_iff] at after
    obtain ⟨previous, before, rfl⟩ := after
    split
    · refine { lease := ?_, heldQuiet := fun leased => absurd rfl leased }
      simp [SlotRuntime.LeaseMatchesStatus]
    · exact sound.slots other previous before
  · intro other current probed after
    rw [Supervisor.restartSlot, getElem?_updateSlot, map_eq_some_iff] at after
    obtain ⟨previous, before, rfl⟩ := after
    split
    · simp
    · exact sound.probe other previous probed before
  · intro holding member
    obtain ⟨inside, elsewhere⟩ := mem_filter.mp member
    obtain ⟨slot, found, lease, trajectory⟩ := sound.held holding inside
    refine ⟨slot, ?_, lease, trajectory⟩
    rw [Supervisor.restartSlot, getElem?_updateSlot]
    rw [decide_eq_true_eq] at elsewhere
    rw [found, map_some, if_neg (Ne.symm elsewhere)]

theorem Sound.startPool : Sound state.startPool := by
  have changed (slotId : Nat) : state.startPool.slots[slotId]? =
      (state.slots[slotId]?).map (fun slot =>
        if slot.isStartable then { slot with pendingStarts := slot.pendingStarts + 1 }
        else slot) := by
    simp [Supervisor.startPool]
  refine { slots := ?_, probe := ?_, held := ?_, untouched := sound.untouched }
  · intro slotId slot after
    rw [changed, map_eq_some_iff] at after
    obtain ⟨previous, before, rfl⟩ := after
    have previously := sound.slots slotId previous before
    split
    · rename_i startable
      rw [SlotRuntime.isStartable, decide_eq_true_eq] at startable
      exact
        { lease := previously.lease
          heldQuiet := fun leased => absurd startable.2 leased }
    · exact previously
  · intro slotId slot probed after
    rw [changed, map_eq_some_iff] at after
    obtain ⟨previous, before, rfl⟩ := after
    have notLost := sound.probe slotId previous probed before
    split <;> exact notLost
  · intro holding member
    obtain ⟨slot, found, lease, trajectory⟩ := sound.held holding member
    refine ⟨slot, ?_, lease, trajectory⟩
    have held : ¬ slot.isStartable = true := by
      simp [SlotRuntime.isStartable, lease]
    rw [changed, found, map_some, if_neg held]

theorem Sound.beginPendingStart (slotId : Nat) : Sound (state.beginPendingStart slotId) := by
  unfold Supervisor.beginPendingStart
  split
  · exact sound
  · rename_i slot found
    split
    · exact sound
    · rename_i pending
      have free := sound.free_of_active found (fun quiet => pending quiet.noPendingStart)
      exact (sound.touchFree .clearDirectories free).updateFree free (fun other again =>
        ⟨free other again, by simp [SlotRuntime.beginStart], by simp [SlotRuntime.beginStart]⟩)

end

theorem endStart_status (slot : SlotRuntime) (healthy : Bool) :
    (slot.endStart healthy).status ≠ .leased ∧ (slot.endStart healthy).status ≠ .lost := by
  cases healthy <;> simp [SlotRuntime.endStart]

section

variable (sound : Sound state)

include sound

theorem Sound.endRunningStart (slotId : Nat) (healthy : Bool) :
    Sound (state.endRunningStart slotId healthy) := by
  unfold Supervisor.endRunningStart
  split
  · exact sound
  · rename_i slot found
    split
    · exact sound
    · rename_i running
      have free := sound.free_of_active found (fun quiet => running quiet.noRunningStart)
      exact sound.updateFree free (fun other again =>
        ⟨free other again, endStart_status other healthy⟩)

theorem Sound.dequeue (slotId position : Nat) :
    Sound (state.updateSlot slotId (fun current =>
      { current with queuedResets := current.queuedResets.eraseIdx position })) := by
  refine { slots := ?_, probe := ?_, held := ?_, untouched := sound.untouched }
  · intro other slot after
    rw [getElem?_updateSlot, map_eq_some_iff] at after
    obtain ⟨previous, before, rfl⟩ := after
    have previously := sound.slots other previous before
    split
    · refine { lease := previously.lease, heldQuiet := ?_ }
      intro leased
      have quiet := previously.heldQuiet leased
      exact
        { quiet with
          queuedStale := fun expected member =>
            quiet.queuedStale expected (mem_of_mem_eraseIdx member) }
    · exact previously
  · intro other slot probed after
    rw [getElem?_updateSlot, map_eq_some_iff] at after
    obtain ⟨previous, before, rfl⟩ := after
    have notLost := sound.probe other previous probed before
    split <;> exact notLost
  · intro holding member
    obtain ⟨slot, found, lease, trajectory⟩ := sound.held holding member
    rw [getElem?_updateSlot, found, map_some]
    split
    · exact ⟨_, rfl, lease, trajectory⟩
    · exact ⟨slot, rfl, lease, trajectory⟩

theorem Sound.beginReset (slotId position : Nat) : Sound (state.beginReset slotId position) := by
  unfold Supervisor.beginReset
  split
  · exact sound
  · rename_i slot found
    split
    · rename_i expected _ queued
      dsimp only
      split
      · exact sound.dequeue slotId position
      · rename_i current
        have free := sound.free_of_active found (fun quiet =>
          current (quiet.queuedStale expected (mem_of_getElem? queued)))
        exact (sound.touchFree .stopProcess free).updateFree free (fun other again =>
          ⟨free other again, by simp, by simp⟩)
    · exact sound

theorem Sound.resetStopped (slotId : Nat) (stopped : Bool) :
    Sound (state.resetStopped slotId stopped) := by
  unfold Supervisor.resetStopped
  split
  · exact sound
  · rename_i slot found
    split
    · rename_i expected running
      have free := sound.free_of_active found (fun quiet =>
        nomatch running.symm.trans quiet.noRunningReset)
      have status : slot.status ≠ .leased ∧ slot.status ≠ .lost := by
        have noLease := free slot found
        have matching := (sound.slots slotId slot found).lease
        simp only [SlotRuntime.LeaseMatchesStatus, noLease, ne_eq, not_true_eq_false, false_iff,
          not_or] at matching
        exact matching
      have ended := sound.touchFree .stopProcess free
      dsimp only
      split
      · refine ended.updateFree free (fun other again => ⟨free other again, ?_⟩)
        change state.slots[slotId]? = some other at again
        rw [found, some_inj] at again
        subst again
        exact status
      · exact (ended.touchFree .clearDirectories free).updateFree free (fun other again =>
          ⟨free other again, by simp [SlotRuntime.beginStart], by simp [SlotRuntime.beginStart]⟩)
    · exact sound

theorem Sound.resetStarted (slotId : Nat) (healthy : Bool) :
    Sound (state.resetStarted slotId healthy) := by
  unfold Supervisor.resetStarted
  split
  · exact sound
  · rename_i slot found
    split
    · rename_i expected running
      have free := sound.free_of_active found (fun quiet =>
        nomatch running.symm.trans quiet.noRunningReset)
      exact sound.updateFree free (fun other again =>
        ⟨free other again, endStart_status other healthy⟩)
    · exact sound

theorem Sound.probe_ (slotId : Nat) : Sound (state.probe slotId) := by
  unfold Supervisor.probe
  split
  · rename_i slot found
    split
    · rename_i live
      refine
        { sound with
          probe := ?_ }
      intro other current asked again
      cases asked
      rw [found, some_inj] at again
      subst again
      rcases live with ready | leased
      · simp [ready]
      · simp [leased]
    · exact sound
  · exact sound

theorem Sound.closeProbe : Sound { state with probed := none } :=
  { sound with
    probe := fun _ _ asked => nomatch asked }

theorem Sound.answer (healthy : Bool) : Sound (state.answer healthy) := by
  unfold Supervisor.answer
  split
  · exact sound
  · rename_i slotId asked
    have closed := sound.closeProbe
    split
    · exact closed
    · cases found : state.slots[slotId]? with
      | none =>
        refine closed.updateFree ?_ ?_
        · intro slot again
          change state.slots[slotId]? = some slot at again
          rw [found] at again
          cases again
        · intro slot again
          change state.slots[slotId]? = some slot at again
          rw [found] at again
          cases again
      | some slot =>
        have notLost := sound.probe slotId slot asked found
        have slotSound := sound.slots slotId slot found
        by_cases leased : slot.status = .leased
        · have changed (other : SlotRuntime) (again : state.slots[slotId]? = some other) :
              failHealth other = { other with status := .lost } := by
            rw [found, some_inj] at again
            subst again
            simp [failHealth, leased]
          refine
            { slots := ?_
              probe := fun _ _ open_ => nomatch open_
              held := ?_
              untouched := sound.untouched }
          · intro other current after
            rw [getElem?_updateSlot, map_eq_some_iff] at after
            obtain ⟨previous, before, rfl⟩ := after
            change state.slots[other]? = some previous at before
            have previously := sound.slots other previous before
            split
            · rename_i same
              subst same
              rw [changed previous before]
              rw [found, some_inj] at before
              subst before
              constructor
              · have hasLease := slotSound.lease.mpr (.inl leased)
                simp [SlotRuntime.LeaseMatchesStatus, hasLease]
              · intro held
                have quiet := slotSound.heldQuiet held
                exact { quiet with }
            · exact previously
          · intro holding member
            obtain ⟨current, before, lease, trajectory⟩ := sound.held holding member
            rw [getElem?_updateSlot]
            change ∃ slot, ((state.slots[holding.slotId]?).map _ = some slot) ∧ _
            rw [before, map_some]
            split
            · rename_i same
              subst same
              rw [changed current before]
              exact ⟨_, rfl, lease, trajectory⟩
            · exact ⟨current, rfl, lease, trajectory⟩
        · have noLease : slot.leaseId = none := by
            by_contra held
            rcases slotSound.lease.mp held with isLeased | isLost
            · exact leased isLeased
            · exact notLost isLost
          have free : ∀ other, state.slots[slotId]? = some other → other.leaseId = none := by
            intro other again
            rw [found, some_inj] at again
            subst again
            exact noLease
          refine closed.updateFree free ?_
          intro other again
          change state.slots[slotId]? = some other at again
          rw [found, some_inj] at again
          subst again
          simp [failHealth, leased, noLease]

end

theorem sound_step (state : Supervisor) (action : Action) (sound : Sound state)
    (admitted : LeasesQuietSlot state action) : Sound (state.step action) := by
  cases action with
  | acquire trajectoryId => exact sound.acquire trajectoryId admitted
  | release leaseId trajectoryId => exact sound.release leaseId trajectoryId
  | forceRelease slotId leaseId => exact sound.forceRelease slotId leaseId
  | restartSlot slotId => exact sound.restartSlot slotId
  | startPool => exact sound.startPool
  | beginPendingStart slotId => exact sound.beginPendingStart slotId
  | endRunningStart slotId healthy => exact sound.endRunningStart slotId healthy
  | beginReset slotId position => exact sound.beginReset slotId position
  | resetStopped slotId stopped => exact sound.resetStopped slotId stopped
  | resetStarted slotId healthy => exact sound.resetStarted slotId healthy
  | probe slotId => exact sound.probe_ slotId
  | answer healthy => exact sound.answer healthy

theorem holders_spared_of_quiet_leases (nodeId : String) (capacity : Nat)
    (actions : List Action)
    (admitted : Runs.Admits step LeasesQuietSlot (initial nodeId capacity) actions)
    (past : List Action) (early : past <+: actions) :
    HoldersSpared (Runs.run step (initial nodeId capacity) past) :=
  (Runs.prefix_invariant sound_step (sound_initial nodeId capacity) admitted early).spared

def plainLease : List Action :=
  [.startPool, .beginPendingStart 0, .endRunningStart 0 true, .acquire "trajectory", .probe 0,
    .answer false,
    .release (some
      { nodeId := "node"
        serial := 0 }) none,
    .beginReset 0 0, .resetStopped 0 true, .resetStarted 0 true]

theorem holders_spared_of_plain_lease :
    Runs.Admits step LeasesQuietSlot (initial "node" 1) plainLease ∧
    HoldersSpared (Runs.run step (initial "node" 1) plainLease) := by
  have admitted : Runs.Admits step LeasesQuietSlot (initial "node" 1) plainLease := by
    refine ⟨trivial, trivial, trivial, ?_, trivial, trivial, trivial, trivial, trivial, trivial,
      trivial⟩
    intro _ slotId slot available found
    cases available
    cases found
    exact
      { noPendingStart := rfl
        noRunningStart := rfl
        noRunningReset := rfl
        queuedStale := fun _ member => nomatch member }
  exact ⟨admitted, holders_spared_of_quiet_leases "node" 1 plainLease admitted plainLease
    (prefix_refl plainLease)⟩

/-- The health question is asked while the slot is leased and answered while
the reset after the release is starting the slot again. The second reset then
expects the generation that the next holder gets. -/
def lateAnswer : List Action :=
  [.startPool, .beginPendingStart 0, .endRunningStart 0 true, .acquire "first", .probe 0,
    .release (some
      { nodeId := "node"
        serial := 0 }) none,
    .beginReset 0 0, .resetStopped 0 true, .answer false, .resetStarted 0 true,
    .acquire "second", .beginReset 0 0]

theorem late_answer_resets_held_slot :
    ¬ HoldersSpared (Runs.run step (initial "node" 1) lateAnswer) := by
  intro spared
  have stopped :
      { slotId := 0
        kind := .stopProcess
        holders :=
          [{ slotId := 0
             leaseId :=
               { nodeId := "node"
                 serial := 1 }
             trajectoryId := "second" }] } ∈
        (Runs.run step (initial "node" 1) lateAnswer).touches := by
    decide
  have noHolder := spared.untouched _ stopped
  cases noHolder

/-- A start or a reset of the supervisor goes on. -/
def Action.runsTask : Action → Bool
  | .beginPendingStart _ => true
  | .endRunningStart _ _ => true
  | .beginReset _ _ => true
  | .resetStopped _ _ => true
  | .resetStarted _ _ => true
  | _ => false

/-- An action stops or clears the slot under its holder, or the slot keeps the holder's lease and
is not leased any more. -/
inductive Hits (state : Supervisor) (holding : Holding) (action : Action) : Prop
  | touched (touch : Touch) (new : (state.step action).touches = state.touches ++ [touch])
    (held : holding ∈ touch.holders)
  | unleased (slot : SlotRuntime)
    (found : (state.step action).slots[holding.slotId]? = some slot)
    (lease : slot.leaseId = some holding.leaseId)
    (status : slot.status ≠ .leased ∧ slot.status ≠ .lost)

theorem exists_hit_of_not_quiet {holding : Holding}
    (found : state.slots[holding.slotId]? = some slot)
    (lease : slot.leaseId = some holding.leaseId) (holds : holding ∈ state.holdings)
    (active : ¬ slot.Quiet) :
    ∃ task, Action.runsTask task = true ∧ Hits state holding task := by
  have unleased {change : SlotRuntime → SlotRuntime} {before : Supervisor} {task : Action}
      (stepped : state.step task = before.updateSlot holding.slotId change)
      (same : before.slots = state.slots) (keeps : (change slot).leaseId = slot.leaseId)
      (status : (change slot).status ≠ .leased ∧ (change slot).status ≠ .lost) :
      Hits state holding task := by
    refine .unleased (change slot) ?_ (keeps.trans lease) status
    rw [stepped, getElem?_updateSlot, same, found]
    simp
  by_cases pending : slot.pendingStarts = 0
  · by_cases running : slot.runningStarts = 0
    · cases reset : slot.runningReset with
      | some task =>
        rcases task with ⟨expected, phase⟩
        cases phase with
        | starting =>
          refine ⟨.resetStarted holding.slotId true, rfl, ?_⟩
          have stepped : state.step (.resetStarted holding.slotId true) =
              state.updateSlot holding.slotId (fun slot =>
                { slot.endStart true with runningReset := none }) := by
            simp only [step, Supervisor.resetStarted, found, reset]
          exact unleased stepped rfl rfl (endStart_status slot true)
        | stopping =>
          refine ⟨.resetStopped holding.slotId false, rfl, ?_⟩
          refine .touched
            { slotId := holding.slotId
              kind := .stopProcess
              holders := state.holdings.filter (fun other => other.slotId = holding.slotId) }
            ?_ ?_
          · simp only [step, Supervisor.resetStopped, found, reset, true_or, if_true]
            rfl
          · exact mem_filter.mpr ⟨holds, by simp⟩
      | none =>
        have current : ∃ expected ∈ slot.queuedResets, slot.isStale expected ≠ true := by
          by_contra stale
          push Not at stale
          exact active
            { noPendingStart := pending
              noRunningStart := running
              noRunningReset := reset
              queuedStale := stale }
        obtain ⟨expected, member, notStale⟩ := current
        obtain ⟨position, queued⟩ := mem_iff_getElem?.mp member
        refine ⟨.beginReset holding.slotId position, rfl, ?_⟩
        have stepped := show state.step (.beginReset holding.slotId position) = _ by
          simp only [step, Supervisor.beginReset, found, reset, queued]
          rw [if_neg notStale]
        exact unleased stepped rfl rfl ⟨by simp, by simp⟩
    · refine ⟨.endRunningStart holding.slotId true, rfl, ?_⟩
      have stepped := show state.step (.endRunningStart holding.slotId true) = _ by
        simp only [step, Supervisor.endRunningStart, found]
        rw [if_neg running]
      exact unleased stepped rfl rfl (endStart_status slot true)
  · refine ⟨.beginPendingStart holding.slotId, rfl, ?_⟩
    have stepped := show state.step (.beginPendingStart holding.slotId) = _ by
      simp only [step, Supervisor.beginPendingStart, found]
      rw [if_neg pending]
    exact unleased stepped rfl rfl
      ⟨by simp [SlotRuntime.beginStart], by simp [SlotRuntime.beginStart]⟩

theorem unquiet_lease_can_be_hit {trajectoryId : String}
    (unquiet : ¬ LeasesQuietSlot state (.acquire trajectoryId)) :
    ∃ holding ∈ (state.step (.acquire trajectoryId)).holdings,
      holding.leaseId = state.newLeaseId ∧ holding.trajectoryId = trajectoryId ∧
      ∃ task, Action.runsTask task = true ∧
        Hits (state.step (.acquire trajectoryId)) holding task := by
  simp only [LeasesQuietSlot] at unquiet
  push Not at unquiet
  obtain ⟨fresh, slotId, slot, available, found, active⟩ := unquiet
  have stepped : state.step (.acquire trajectoryId) =
      (state.leaseSlot slotId trajectoryId).hold slotId state.newLeaseId trajectoryId := by
    simp [step, Supervisor.acquire, fresh, available]
  have after : (state.step (.acquire trajectoryId)).slots[slotId]? = some
      { slot with
        status := .leased
        leaseId := some state.newLeaseId
        trajectoryId := some trajectoryId } := by
    rw [stepped]
    simp only [hold, leaseSlot, getElem?_modify, found]
    rfl
  have holds :
      { slotId := slotId
        leaseId := state.newLeaseId
        trajectoryId := trajectoryId } ∈ (state.step (.acquire trajectoryId)).holdings := by
    rw [stepped]
    exact mem_append_right _ (mem_singleton_self _)
  refine ⟨_, holds, rfl, rfl, exists_hit_of_not_quiet after rfl holds ?_⟩
  intro quiet
  exact active { quiet with }

theorem late_answer_lease_can_be_hit :
    let leased := (Runs.run step (initial "node" 1) (lateAnswer.take 10)).step (.acquire "second")
    ∃ holding ∈ leased.holdings,
      holding.leaseId = (Runs.run step (initial "node" 1) (lateAnswer.take 10)).newLeaseId ∧
      holding.trajectoryId = "second" ∧
      ∃ task, Action.runsTask task = true ∧ Hits leased holding task := by
  apply unquiet_lease_can_be_hit
  intro quiet
  have stale := (quiet rfl 0 _ rfl rfl).queuedStale _ mem_cons_self
  cases stale

end Supervisor

end Dressage.Sandbox

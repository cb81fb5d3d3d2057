/-
Leased slots and the manager's lease table.

A leased slot whose id the manager has forgotten is lost to the pool. The manager forgets one
when an acquire took effect and failed on its side, when the call that frees the slot of an
expired lease had no effect, and when an acquire dropped a lost lease whose slot was still
leased; without these three, every leased slot is on record at every moment.
-/

import Dressage.Sandbox.ClusterManager

namespace Dressage.Sandbox

open Lib List OrderedDict Option

structure SlotRuntime.Descends (before after : SlotRuntime) : Prop where
  lease : after.leaseId = none ∨
    after.leaseId = before.leaseId ∧ after.trajectoryId = before.trajectoryId
  leased : after.status = .leased → before.status = .leased ∧ after.leaseId = before.leaseId

theorem SlotRuntime.Descends.refl (slot : SlotRuntime) : slot.Descends slot :=
  { lease := .inr ⟨rfl, rfl⟩
    leased := fun leased => ⟨leased, rfl⟩ }

theorem SlotRuntime.Descends.of_same {before after : SlotRuntime}
    (lease : after.leaseId = before.leaseId) (trajectory : after.trajectoryId = before.trajectoryId)
    (status : after.status = before.status) : before.Descends after :=
  { lease := .inr ⟨lease, trajectory⟩
    leased := fun leased => ⟨status.symm.trans leased, lease⟩ }

theorem SlotRuntime.Descends.of_unleased {before after : SlotRuntime}
    (lease : after.leaseId = before.leaseId) (trajectory : after.trajectoryId = before.trajectoryId)
    (unleased : after.status ≠ .leased) : before.Descends after :=
  { lease := .inr ⟨lease, trajectory⟩
    leased := fun leased => absurd leased unleased }

namespace Supervisor

structure Descends (before after : Supervisor) : Prop where
  node : after.nodeId = before.nodeId
  serial : after.nextSerial = before.nextSerial
  size : after.slots.length = before.slots.length
  slots : ∀ (slotId : Nat) slot, after.slots[slotId]? = some slot →
    ∃ previous, before.slots[slotId]? = some previous ∧ previous.Descends slot

variable {state : Supervisor}

theorem Descends.of_slots {after : Supervisor} (node : after.nodeId = state.nodeId)
    (serial : after.nextSerial = state.nextSerial) (same : after.slots = state.slots) :
    state.Descends after :=
  { node := node
    serial := serial
    size := congrArg List.length same
    slots := fun _ slot found => ⟨slot, same ▸ found, SlotRuntime.Descends.refl slot⟩ }

theorem Descends.refl (state : Supervisor) : state.Descends state := .of_slots rfl rfl rfl

theorem descends_updateSlot {middle : Supervisor} (slotId : Nat)
    {change : SlotRuntime → SlotRuntime} (node : middle.nodeId = state.nodeId)
    (serial : middle.nextSerial = state.nextSerial) (same : middle.slots = state.slots)
    (descends : ∀ slot : SlotRuntime, slot.Descends (change slot)) :
    state.Descends (middle.updateSlot slotId change) := by
  refine { node := node, serial := serial, size := ?_, slots := ?_ }
  · rw [← same]
    exact length_modify change middle.slots slotId
  intro other slot after
  have found : (middle.slots.modify slotId change)[other]? = some slot := after
  rw [same, getElem?_modify] at found
  cases before : state.slots[other]? with
  | none =>
    rw [before] at found
    cases found
  | some previous =>
    rw [before] at found
    refine ⟨previous, rfl, ?_⟩
    simp only [Option.map_eq_map, map_some, some_inj] at found
    subst found
    split
    · exact descends previous
    · exact SlotRuntime.Descends.refl previous

theorem descends_startPool : state.Descends state.startPool := by
  refine { node := rfl, serial := rfl, size := length_map _, slots := ?_ }
  intro slotId slot after
  simp only [startPool, getElem?_map, map_eq_some_iff] at after
  obtain ⟨previous, before, rfl⟩ := after
  refine ⟨previous, before, ?_⟩
  split
  · exact .of_same rfl rfl rfl
  · exact SlotRuntime.Descends.refl previous

theorem descends_release (leaseId : Option LeaseId) (trajectoryId : Option String) :
    state.Descends (state.release leaseId trajectoryId) := by
  unfold release
  cases state.slotForLease leaseId trajectoryId with
  | none =>
    exact .of_slots rfl rfl rfl
  | some slotId =>
    refine descends_updateSlot slotId rfl rfl rfl (fun slot => ?_)
    exact
      { lease := .inl rfl
        leased := fun leased => nomatch leased }

theorem descends_forceRelease (slotId : Nat) (leaseId : Option LeaseId) :
    state.Descends (state.forceRelease slotId leaseId) := by
  unfold forceRelease
  split
  · exact Descends.refl state
  · exact descends_release _ _

theorem descends_endStart (slot : SlotRuntime) (healthy : Bool) :
    slot.Descends (slot.endStart healthy) := by
  refine { lease := .inr ⟨rfl, rfl⟩, leased := ?_ }
  cases healthy
  · intro leased
    cases leased
  · intro leased
    cases leased

theorem descends_failHealth (slot : SlotRuntime) : slot.Descends (failHealth slot) := by
  unfold failHealth
  split <;> exact .of_unleased rfl rfl (by simp)

theorem descends_step (action : Action) (internal : Cluster.isInternal action = true) :
    state.Descends (state.step action) := by
  cases action with
  | acquire trajectoryId => cases internal
  | release leaseId trajectoryId => cases internal
  | forceRelease slotId leaseId => cases internal
  | restartSlot slotId =>
    refine descends_updateSlot slotId rfl rfl rfl (fun slot => ?_)
    exact
      { lease := .inl rfl
        leased := fun leased => nomatch leased }
  | startPool => exact descends_startPool
  | beginPendingStart slotId =>
    simp only [step, beginPendingStart]
    split
    · exact Descends.refl state
    split
    · exact Descends.refl state
    · exact descends_updateSlot slotId rfl rfl rfl
        fun _ => .of_unleased rfl rfl (by simp [SlotRuntime.beginStart])
  | endRunningStart slotId healthy =>
    simp only [step, endRunningStart]
    split
    · exact Descends.refl state
    split
    · exact Descends.refl state
    · refine descends_updateSlot slotId rfl rfl rfl (fun slot => ?_)
      exact { descends_endStart slot healthy with }
  | beginReset slotId position =>
    simp only [step, beginReset]
    split
    · exact Descends.refl state
    split
    · split
      · exact descends_updateSlot slotId rfl rfl rfl fun _ => .of_same rfl rfl rfl
      · exact descends_updateSlot slotId rfl rfl rfl fun _ => .of_unleased rfl rfl (by simp)
    · exact Descends.refl state
  | resetStopped slotId stopped =>
    simp only [step, resetStopped]
    split
    · exact Descends.refl state
    split
    · split
      · exact descends_updateSlot slotId rfl rfl rfl fun _ => .of_same rfl rfl rfl
      · exact descends_updateSlot slotId rfl rfl rfl
          fun _ => .of_unleased rfl rfl (by simp [SlotRuntime.beginStart])
    · exact Descends.refl state
  | resetStarted slotId healthy =>
    simp only [step, resetStarted]
    split
    · exact Descends.refl state
    split
    · refine descends_updateSlot slotId rfl rfl rfl (fun slot => ?_)
      exact { descends_endStart slot healthy with }
    · exact Descends.refl state
  | probe slotId =>
    simp only [step, probe]
    split
    · split
      · exact .of_slots rfl rfl rfl
      · exact Descends.refl state
    · exact Descends.refl state
  | answer healthy =>
    simp only [step, answer]
    split
    · exact Descends.refl state
    split
    · exact .of_slots rfl rfl rfl
    · exact descends_updateSlot _ rfl rfl rfl descends_failHealth

/-- The slot of an acquire: one that the trajectory has already, or a free one. -/
inductive Acquired (before : Supervisor) (trajectoryId : String) :
    Option (Nat × LeaseId) → Supervisor → Prop where
  | nothing : Acquired before trajectoryId none before
  | again (slotId : Nat) (slot : SlotRuntime) (leaseId : LeaseId) (after : Supervisor)
    (found : before.slots[slotId]? = some slot) (lease : slot.leaseId = some leaseId)
    (trajectory : slot.trajectoryId = some trajectoryId) (descends : before.Descends after)
    (same : after.slots = before.slots) :
    Acquired before trajectoryId (some (slotId, leaseId)) after
  | fresh (slotId : Nat) (slot : SlotRuntime) (after : Supervisor)
    (found : before.slots[slotId]? = some slot) (free : slot.leaseId = none)
    (node : after.nodeId = before.nodeId) (serial : after.nextSerial = before.nextSerial + 1)
    (slots : ∀ other, after.slots[other]? = if slotId = other then some
      { slot with
        status := .leased
        leaseId := some before.newLeaseId
        trajectoryId := some trajectoryId } else before.slots[other]?) :
    Acquired before trajectoryId (some (slotId, before.newLeaseId)) after

theorem acquire_acquired (state : Supervisor) (trajectoryId : String) :
    Acquired state trajectoryId (state.acquire trajectoryId).1 (state.acquire trajectoryId).2 := by
  unfold acquire
  cases existing : state.slotForTrajectory trajectoryId with
  | some slotId =>
    obtain ⟨inside, holds, _⟩ := findIdx?_eq_some_iff_getElem.mp existing
    rw [decide_eq_true_eq] at holds
    have found := getElem?_eq_getElem inside
    simp only [found, bind_some]
    cases lease : state.slots[slotId].leaseId with
    | none => exact Acquired.nothing
    | some leaseId =>
      refine Acquired.again slotId state.slots[slotId] leaseId _ found lease holds.1 ?_ rfl
      exact
        { node := rfl
          serial := rfl
          size := rfl
          slots := fun _ slot at_ => ⟨slot, at_, SlotRuntime.Descends.refl slot⟩ }
  | none =>
    cases available : state.firstAvailable with
    | none => exact Acquired.nothing
    | some slotId =>
      obtain ⟨inside, holds, _⟩ := findIdx?_eq_some_iff_getElem.mp available
      rw [SlotRuntime.isAvailable, decide_eq_true_eq] at holds
      have found := getElem?_eq_getElem inside
      refine Acquired.fresh slotId state.slots[slotId] _ found holds.2 rfl rfl ?_
      intro other
      simp only [hold, leaseSlot, getElem?_modify]
      by_cases same : slotId = other
      · subst same
        simp [found]
      · simp [same]

end Supervisor

namespace Cluster

variable {state next : Cluster}

def SlotAt (state : Cluster) (nodeId : String) (slotId : Nat) (slot : SlotRuntime) : Prop :=
  ∃ supervisor, state.nodes.get? nodeId = some supervisor ∧ supervisor.slots[slotId]? = some slot

def Issued (state : Cluster) (leaseId : LeaseId) : Prop :=
  ∃ supervisor, state.nodes.get? leaseId.nodeId = some supervisor ∧
    leaseId.serial < supervisor.nextSerial

def NotLeased (state : Cluster) (leaseId : LeaseId) : Prop :=
  ∀ nodeId slotId slot, SlotAt state nodeId slotId slot → slot.leaseId = some leaseId →
    slot.status ≠ .leased

def NoOrphans (state : Cluster) : Prop :=
  ∀ nodeId slotId slot, SlotAt state nodeId slotId slot → slot.status = .leased →
    ∃ trajectoryId lease, state.leases.get? trajectoryId = some lease ∧
      slot.leaseId = some lease.leaseId

def TablesInverse (state : Cluster) : Prop :=
  ∀ leaseId trajectoryId, state.leasesById.get? leaseId = some trajectoryId ↔
    ∃ lease, state.leases.get? trajectoryId = some lease ∧ lease.leaseId = leaseId

def KeepsTrack (state : Cluster) : Action → Prop
  | .expire trajectoryId outcome =>
    outcome = .failedBeforeEffect → ∀ lease, state.leases.get? trajectoryId = some lease →
      NotLeased state lease.leaseId
  | .dropStale =>
    ∀ trajectoryId lease, state.lockHolder = some (.acquire trajectoryId) →
      state.leases.get? trajectoryId = some lease → lease.status = .lost →
        NotLeased state lease.leaseId
  | .remoteAcquire nodeId outcome =>
    outcome = .failedAfterEffect → ∀ trajectoryId supervisor,
      state.lockHolder = some (.acquire trajectoryId) →
        state.nodes.get? nodeId = some supervisor → (supervisor.acquire trajectoryId).1 = none
  | _ => True

structure NodesSound (state : Cluster) : Prop where
  keyed : ∀ nodeId supervisor, state.nodes.get? nodeId = some supervisor →
    supervisor.nodeId = nodeId
  issued : ∀ nodeId slotId slot leaseId, SlotAt state nodeId slotId slot →
    slot.leaseId = some leaseId → leaseId.nodeId = nodeId ∧ Issued state leaseId
  distinct : ∀ nodeId first second slot other leaseId, SlotAt state nodeId first slot →
    SlotAt state nodeId second other → slot.leaseId = some leaseId →
      other.leaseId = some leaseId → first = second
  leased : ∀ nodeId slotId slot, SlotAt state nodeId slotId slot → slot.status = .leased →
    slot.leaseId ≠ none

structure RecordSound (state : Cluster) (trajectoryId : String) (lease : LeaseRecord) :
    Prop where
  trajectory : lease.trajectoryId = trajectoryId
  identity : lease.recordId < state.nextRecordId
  node : lease.leaseId.nodeId = lease.nodeId
  issued : Issued state lease.leaseId
  exists_slot : ∃ slot, SlotAt state lease.nodeId lease.slotId slot
  slot : ∀ nodeId slotId slot, SlotAt state nodeId slotId slot →
    slot.leaseId = some lease.leaseId → slot.trajectoryId = some trajectoryId

structure ReleaseSound (state : Cluster) (task : BackgroundRelease) : Prop where
  identity : task.lease.recordId < state.nextRecordId
  node : task.lease.leaseId.nodeId = task.lease.nodeId
  issued : Issued state task.lease.leaseId
  record : ∀ trajectoryId lease, state.leases.get? trajectoryId = some lease →
    lease.recordId = task.lease.recordId →
      lease.leaseId = task.lease.leaseId ∧ lease.trajectoryId = task.lease.trajectoryId
  freed : task.phase = .polling ∨ task.phase = .complete → NotLeased state task.lease.leaseId

structure Sound (state : Cluster) : Prop where
  nodes : NodesSound state
  records : ∀ trajectoryId lease, state.leases.get? trajectoryId = some lease →
    RecordSound state trajectoryId lease
  identities : ∀ first second lease other, state.leases.get? first = some lease →
    state.leases.get? second = some other → lease.recordId = other.recordId → first = second
  inverse : TablesInverse state
  releases : ∀ task ∈ state.releases, ReleaseSound state task

/-- Each node is there before and after, and its slots have only lost leases. -/
structure NodesDescend (before after : Cluster) : Prop where
  backward : ∀ nodeId supervisor, after.nodes.get? nodeId = some supervisor →
    ∃ previous, before.nodes.get? nodeId = some previous ∧ previous.Descends supervisor
  forward : ∀ nodeId previous, before.nodes.get? nodeId = some previous →
    ∃ supervisor, after.nodes.get? nodeId = some supervisor ∧ previous.Descends supervisor

theorem nodesDescend_of_eq (same : next.nodes = state.nodes) : NodesDescend state next := by
  constructor
  · intro nodeId supervisor found
    rw [same] at found
    exact ⟨supervisor, found, Supervisor.Descends.refl supervisor⟩
  · intro nodeId previous found
    rw [same]
    exact ⟨previous, found, Supervisor.Descends.refl previous⟩

theorem NodesDescend.of_nodes_eq {middle : Cluster} (descend : NodesDescend middle next)
    (same : middle.nodes = state.nodes) : NodesDescend state next := by
  constructor
  · rw [← same]
    exact descend.backward
  · rw [← same]
    exact descend.forward

variable {nodeId trajectoryId : String} {supervisor : Supervisor} {slotId : Nat}
variable {slot : SlotRuntime} {leaseId : LeaseId} {current lease : LeaseRecord}

theorem nodesDescend_set {changed : Supervisor} (found : state.nodes.get? nodeId = some supervisor)
    (descends : supervisor.Descends changed) (same : next.nodes = state.nodes.set nodeId changed) :
    NodesDescend state next := by
  constructor
  · intro other current after
    rw [same, get?_set] at after
    split at after
    · rename_i atNode
      cases after
      rw [atNode]
      exact ⟨supervisor, found, descends⟩
    · exact ⟨current, after, Supervisor.Descends.refl current⟩
  · intro other previous before
    rw [same, get?_set]
    split
    · rename_i atNode
      rw [atNode, found, some_inj] at before
      subst before
      exact ⟨changed, rfl, descends⟩
    · exact ⟨previous, before, Supervisor.Descends.refl previous⟩

theorem nodesDescend_call {outcome : CallOutcome} {effect : Supervisor → Supervisor}
    (descends : ∀ supervisor : Supervisor, supervisor.Descends (effect supervisor)) :
    NodesDescend state (state.call nodeId outcome effect) := by
  unfold call
  split
  · exact nodesDescend_of_eq rfl
  · rename_i supervisor found
    split
    · exact nodesDescend_set found (descends supervisor) rfl
    · exact nodesDescend_of_eq rfl

section

variable (descend : NodesDescend state next)

include descend

theorem NodesDescend.slotAt (after : SlotAt next nodeId slotId slot) :
    ∃ previous : SlotRuntime, SlotAt state nodeId slotId previous ∧ previous.Descends slot := by
  obtain ⟨supervisor, found, inSlots⟩ := after
  obtain ⟨before, present, descends⟩ := descend.backward nodeId supervisor found
  obtain ⟨previous, inBefore, slotDescends⟩ := descends.slots slotId slot inSlots
  exact ⟨previous, ⟨before, present, inBefore⟩, slotDescends⟩

theorem NodesDescend.exists_slotAt (before : ∃ slot, SlotAt state nodeId slotId slot) :
    ∃ slot, SlotAt next nodeId slotId slot := by
  obtain ⟨slot, supervisor, found, inSlots⟩ := before
  obtain ⟨after, present, descends⟩ := descend.forward nodeId supervisor found
  have inside : slotId < after.slots.length := by
    rw [descends.size]
    exact (List.getElem_of_getElem? inSlots).1
  exact ⟨after.slots[slotId], after, present, getElem?_eq_getElem inside⟩

theorem NodesDescend.leaseAt (after : SlotAt next nodeId slotId slot)
    (lease : slot.leaseId = some leaseId) :
    ∃ previous : SlotRuntime, SlotAt state nodeId slotId previous ∧
      previous.leaseId = some leaseId ∧ slot.trajectoryId = previous.trajectoryId ∧
      previous.Descends slot := by
  obtain ⟨previous, before, descends⟩ := descend.slotAt after
  rcases descends.lease with gone | ⟨kept, trajectory⟩
  · rw [gone] at lease
    cases lease
  · exact ⟨previous, before, kept ▸ lease, trajectory, descends⟩

theorem NodesDescend.issued (issued : Issued state leaseId) : Issued next leaseId := by
  obtain ⟨supervisor, found, old⟩ := issued
  obtain ⟨after, present, descends⟩ := descend.forward leaseId.nodeId supervisor found
  refine ⟨after, present, ?_⟩
  rw [descends.serial]
  exact old

theorem NodesDescend.notLeased {leaseId : LeaseId} (free : NotLeased state leaseId) :
    NotLeased next leaseId := by
  intro nodeId slotId slot after lease leased
  obtain ⟨previous, before, leaseBefore, _, descends⟩ := descend.leaseAt after lease
  exact free nodeId slotId previous before leaseBefore (descends.leased leased).1

theorem NodesDescend.nodesSound (sound : NodesSound state) : NodesSound next := by
  constructor
  · intro nodeId supervisor found
    obtain ⟨before, present, descends⟩ := descend.backward nodeId supervisor found
    rw [descends.node]
    exact sound.keyed nodeId before present
  · intro nodeId slotId slot leaseId after lease
    obtain ⟨previous, before, leaseBefore, _⟩ := descend.leaseAt after lease
    obtain ⟨node, issued⟩ := sound.issued nodeId slotId previous leaseId before leaseBefore
    exact ⟨node, descend.issued issued⟩
  · intro nodeId first second slot other leaseId atFirst atSecond lease lease'
    obtain ⟨previous, before, leaseBefore, _⟩ := descend.leaseAt atFirst lease
    obtain ⟨previous', before', leaseBefore', _⟩ := descend.leaseAt atSecond lease'
    exact sound.distinct nodeId first second previous previous' leaseId before before' leaseBefore
      leaseBefore'
  · intro nodeId slotId slot after leased
    obtain ⟨previous, before, descends⟩ := descend.slotAt after
    obtain ⟨wasLeased, same⟩ := descends.leased leased
    rw [same]
    exact sound.leased nodeId slotId previous before wasLeased

end

structure SameRecord (before after : LeaseRecord) : Prop where
  recordId : after.recordId = before.recordId
  leaseId : after.leaseId = before.leaseId
  trajectoryId : after.trajectoryId = before.trajectoryId
  nodeId : after.nodeId = before.nodeId
  slotId : after.slotId = before.slotId

theorem SameRecord.refl (lease : LeaseRecord) : SameRecord lease lease :=
  { recordId := rfl
    leaseId := rfl
    trajectoryId := rfl
    nodeId := rfl
    slotId := rfl }

theorem sameRecord_status (lease : LeaseRecord) (status : LeaseStatus) :
    SameRecord lease { lease with status := status } :=
  { recordId := rfl
    leaseId := rfl
    trajectoryId := rfl
    nodeId := rfl
    slotId := rfl }

def RecordsFrom (before after : Cluster) : Prop :=
  ∀ trajectoryId lease, after.leases.get? trajectoryId = some lease →
    ∃ previous, before.leases.get? trajectoryId = some previous ∧ SameRecord previous lease

def RecordsKept (before after : Cluster) : Prop :=
  ∀ trajectoryId previous, before.leases.get? trajectoryId = some previous →
    (∃ lease, after.leases.get? trajectoryId = some lease ∧
      lease.leaseId = previous.leaseId) ∨ NotLeased after previous.leaseId

theorem NoOrphans.descend (tracked : NoOrphans state) (descend : NodesDescend state next)
    (kept : RecordsKept state next) : NoOrphans next := by
  intro nodeId slotId slot after leased
  obtain ⟨previous, before, descends⟩ := descend.slotAt after
  obtain ⟨wasLeased, same⟩ := descends.leased leased
  obtain ⟨trajectoryId, lease, recorded, leaseId⟩ := tracked nodeId slotId previous before wasLeased
  rcases kept trajectoryId lease recorded with ⟨current, present, sameLease⟩ | free
  · refine ⟨trajectoryId, current, present, ?_⟩
    rw [same, leaseId, sameLease]
  · exact absurd leased (free nodeId slotId slot after (by rw [same, leaseId]))

theorem ReleaseSound.descend {task : BackgroundRelease} (sound : ReleaseSound state task)
    (descend : NodesDescend state next) (records : RecordsFrom state next)
    (ids : next.nextRecordId = state.nextRecordId) : ReleaseSound next task := by
  refine
    { identity := by rw [ids]; exact sound.identity
      node := sound.node
      issued := descend.issued sound.issued
      record := ?_
      freed := fun phase => descend.notLeased (sound.freed phase) }
  intro trajectoryId lease found identity
  obtain ⟨previous, before, same⟩ := records trajectoryId lease found
  rw [same.leaseId, same.trajectoryId]
  exact sound.record trajectoryId previous before (same.recordId ▸ identity)

theorem Sound.descend (sound : Sound state) (descend : NodesDescend state next)
    (records : RecordsFrom state next) (ids : next.nextRecordId = state.nextRecordId)
    (inverse : TablesInverse next)
    (releases : ∀ task ∈ next.releases, ReleaseSound next task) : Sound next := by
  refine
    { nodes := descend.nodesSound sound.nodes
      records := ?_
      identities := ?_
      inverse := inverse
      releases := releases }
  rotate_left
  · intro first second lease other atFirst atSecond identity
    obtain ⟨previous, before, same⟩ := records first lease atFirst
    obtain ⟨previous', before', same'⟩ := records second other atSecond
    rw [same.recordId, same'.recordId] at identity
    exact sound.identities first second previous previous' before before' identity
  intro trajectoryId lease found
  obtain ⟨previous, before, same⟩ := records trajectoryId lease found
  have previously := sound.records trajectoryId previous before
  refine
    { trajectory := by rw [same.trajectoryId]; exact previously.trajectory
      identity := by rw [ids, same.recordId]; exact previously.identity
      node := by rw [same.leaseId, same.nodeId]; exact previously.node
      issued := by rw [same.leaseId]; exact descend.issued previously.issued
      exists_slot := by
        rw [same.nodeId, same.slotId]
        exact descend.exists_slotAt previously.exists_slot
      slot := ?_ }
  intro nodeId slotId slot after leaseId
  rw [same.leaseId] at leaseId
  obtain ⟨old, beforeSlot, oldLease, trajectory, _⟩ := descend.leaseAt after leaseId
  rw [trajectory]
  exact previously.slot nodeId slotId old beforeSlot oldLease

section Tables

variable {change : String → LeaseRecord → LeaseRecord}

theorem recordsFrom_of_mapValues (same : next.leases = state.leases.mapValues change)
    (preserves : ∀ key lease, SameRecord lease (change key lease)) :
    RecordsFrom state next := by
  intro trajectoryId lease found
  rw [same, get?_mapValues, map_eq_some_iff] at found
  obtain ⟨previous, before, rfl⟩ := found
  exact ⟨previous, before, preserves trajectoryId previous⟩

theorem recordsKept_of_mapValues (same : next.leases = state.leases.mapValues change)
    (preserves : ∀ key lease, SameRecord lease (change key lease)) :
    RecordsKept state next := by
  intro trajectoryId previous before
  refine .inl ⟨change trajectoryId previous, ?_, (preserves trajectoryId previous).leaseId⟩
  rw [same, get?_mapValues, before]
  rfl

theorem inverse_of_mapValues (inverse : TablesInverse state)
    (same : next.leases = state.leases.mapValues change)
    (byId : next.leasesById = state.leasesById)
    (preserves : ∀ key lease, SameRecord lease (change key lease)) :
    TablesInverse next := by
  intro leaseId trajectoryId
  rw [byId, inverse leaseId trajectoryId, same, get?_mapValues]
  constructor
  · rintro ⟨lease, found, rfl⟩
    refine ⟨change trajectoryId lease, ?_, (preserves trajectoryId lease).leaseId⟩
    rw [found]
    rfl
  · rintro ⟨lease, found, rfl⟩
    rw [map_eq_some_iff] at found
    obtain ⟨previous, before, rfl⟩ := found
    exact ⟨previous, before, (preserves trajectoryId previous).leaseId.symm⟩

end Tables

theorem recordsFrom_of_eq (same : next.leases = state.leases) : RecordsFrom state next := by
  intro trajectoryId lease found
  rw [same] at found
  exact ⟨lease, found, SameRecord.refl lease⟩

theorem recordsKept_of_eq (same : next.leases = state.leases) : RecordsKept state next := by
  intro trajectoryId previous before
  rw [← same] at before
  exact .inl ⟨previous, before, rfl⟩

theorem inverse_of_eq (inverse : TablesInverse state) (same : next.leases = state.leases)
    (byId : next.leasesById = state.leasesById) : TablesInverse next := by
  intro leaseId trajectoryId
  rw [same, byId]
  exact inverse leaseId trajectoryId

theorem recordsFrom_dropLease (lease : LeaseRecord) : RecordsFrom state (state.dropLease lease) := by
  intro trajectoryId current found
  rw [dropLease, get?_pop] at found
  split at found
  · cases found
  · exact ⟨current, found, SameRecord.refl current⟩

theorem inverse_dropLease (inverse : TablesInverse state)
    (found : state.leases.get? lease.trajectoryId = some current)
    (sameLease : current.leaseId = lease.leaseId) : TablesInverse (state.dropLease lease) := by
  intro leaseId trajectoryId
  have own := (inverse lease.leaseId lease.trajectoryId).mpr ⟨current, found, sameLease⟩
  simp only [dropLease, get?_pop]
  by_cases same : leaseId = lease.leaseId
  · subst same
    rw [if_pos rfl]
    constructor
    · intro impossible
      cases impossible
    · rintro ⟨other, present, sameId⟩
      split at present
      · cases present
      · rename_i elsewhere
        have entry := (inverse lease.leaseId trajectoryId).mpr ⟨other, present, sameId⟩
        rw [own, some_inj] at entry
        exact absurd entry.symm elsewhere
  · rw [if_neg same, inverse leaseId trajectoryId]
    by_cases here : trajectoryId = lease.trajectoryId
    · subst here
      rw [if_pos rfl, found]
      constructor
      · rintro ⟨other, present, sameId⟩
        cases present
        exact absurd (sameId.symm.trans sameLease) same
      · rintro ⟨other, impossible, _⟩
        cases impossible
    · rw [if_neg here]

theorem recordsKept_dropLease {middle : Cluster}
    (found : state.leases.get? lease.trajectoryId = some current)
    (same : middle.leases = (state.dropLease lease).leases)
    (free : NotLeased middle current.leaseId) : RecordsKept state middle := by
  intro trajectoryId previous before
  by_cases here : trajectoryId = lease.trajectoryId
  · subst here
    rw [found, some_inj] at before
    subst before
    exact .inr free
  · refine .inl ⟨previous, ?_, rfl⟩
    rw [same, dropLease, get?_pop, if_neg here]
    exact before

theorem notLeased_of_release (sound : NodesSound state) (trajectoryId : Option String)
    (found : state.nodes.get? leaseId.nodeId = some supervisor)
    (same : next.nodes = state.nodes.set leaseId.nodeId
      (supervisor.release (some leaseId) trajectoryId)) : NotLeased next leaseId := by
  have descend := nodesDescend_set found
    (Supervisor.descends_release (some leaseId) trajectoryId) same
  intro nodeId slotId slot after lease leased
  obtain ⟨previous, before, leaseBefore, _, descends⟩ := descend.leaseAt after lease
  have node := (sound.issued nodeId slotId previous leaseId before leaseBefore).1
  subst node
  obtain ⟨owner, isOwner, inSlots⟩ := before
  rw [found, some_inj] at isOwner
  subst isOwner
  have findable : previous.isFindable = true := by
    simp [SlotRuntime.isFindable, (descends.leased leased).1]
  -- The slot is found by its id, and it is the only one with that id.
  obtain ⟨position, located⟩ : ∃ position,
      supervisor.slotForLease (some leaseId) trajectoryId = some position := by
    rw [← isSome_iff_exists]
    unfold Supervisor.slotForLease
    rw [findIdx?_isSome, List.any_eq_true]
    exact ⟨previous, mem_of_getElem? inSlots, by simp [findable, leaseBefore]⟩
  have atSlot : position = slotId := by
    obtain ⟨inside, holds, _⟩ := findIdx?_eq_some_iff_getElem.mp located
    simp only [Bool.and_eq_true, decide_eq_true_eq] at holds
    exact sound.distinct leaseId.nodeId position slotId supervisor.slots[position] previous
      leaseId ⟨supervisor, found, getElem?_eq_getElem inside⟩ ⟨supervisor, found, inSlots⟩
      holds.2 leaseBefore
  subst atSlot
  obtain ⟨current, isCurrent, inCurrent⟩ := after
  rw [same, get?_set_self, some_inj] at isCurrent
  subst isCurrent
  simp only [Supervisor.release, located, Supervisor.updateSlot, getElem?_modify,
    inSlots] at inCurrent
  cases inCurrent
  cases lease

theorem forceRelease_eq_release {supervisor : Supervisor} {slotId : Nat} {slot : SlotRuntime}
    (found : supervisor.slots[slotId]? = some slot) (leaseId : LeaseId) :
    supervisor.forceRelease slotId (some leaseId) =
      supervisor.release (some leaseId) slot.trajectoryId := by
  simp [Supervisor.forceRelease, found]

theorem descend_of_nodes (sound : Sound state) (descend : NodesDescend state next)
    (leases : next.leases = state.leases) (byId : next.leasesById = state.leasesById)
    (ids : next.nextRecordId = state.nextRecordId) (releases : next.releases = state.releases) :
    Sound next ∧ (NoOrphans state → NoOrphans next) := by
  have records : RecordsFrom state next := recordsFrom_of_eq leases
  refine ⟨sound.descend descend records ids (inverse_of_eq sound.inverse leases byId) ?_,
    fun tracked => tracked.descend descend (recordsKept_of_eq leases)⟩
  intro task member
  rw [releases] at member
  exact (sound.releases task member).descend descend records ids

theorem descend_of_status {change : String → LeaseRecord → LeaseRecord} (sound : Sound state)
    (nodes : next.nodes = state.nodes) (leases : next.leases = state.leases.mapValues change)
    (preserves : ∀ key lease, SameRecord lease (change key lease))
    (byId : next.leasesById = state.leasesById)
    (ids : next.nextRecordId = state.nextRecordId)
    (releases : ∀ task ∈ next.releases, task ∈ state.releases) :
    Sound next ∧ (NoOrphans state → NoOrphans next) := by
  have descend : NodesDescend state next := nodesDescend_of_eq nodes
  have records : RecordsFrom state next := recordsFrom_of_mapValues leases preserves
  refine ⟨sound.descend descend records ids
    (inverse_of_mapValues sound.inverse leases byId preserves) ?_,
    fun tracked => tracked.descend descend (recordsKept_of_mapValues leases preserves)⟩
  intro task member
  exact (sound.releases task (releases task member)).descend descend records ids

theorem sound_markNodeLost (sound : Sound state) (nodeId : String) :
    Sound (state.markNodeLost nodeId) ∧
      (NoOrphans state → NoOrphans (state.markNodeLost nodeId)) := by
  have same : (state.markNodeLost nodeId).leases = state.leases.mapValues (fun _ lease =>
    if lease.nodeId = nodeId then { lease with status := .lost } else lease) := rfl
  refine descend_of_status sound rfl same ?_ rfl rfl (fun task member => member)
  intro key lease
  split
  · exact sameRecord_status lease .lost
  · exact SameRecord.refl lease

theorem recordsFrom_setStatus (lease : LeaseRecord) (status : LeaseStatus) :
    RecordsFrom state (state.setStatus lease status) := by
  intro trajectoryId current found
  simp only [setStatus, get?_mapValues, map_eq_some_iff] at found
  obtain ⟨previous, before, rfl⟩ := found
  refine ⟨previous, before, ?_⟩
  split
  · exact sameRecord_status previous status
  · exact SameRecord.refl previous

section

variable (sound : Sound state)

include sound

theorem sound_setStatus (lease : LeaseRecord) (status : LeaseStatus) :
    Sound (state.setStatus lease status) ∧
      (NoOrphans state → NoOrphans (state.setStatus lease status)) := by
  have same : (state.setStatus lease status).leases = state.leases.mapValues (fun _ current =>
    if current.recordId = lease.recordId then { current with status := status }
    else current) := rfl
  refine descend_of_status sound rfl same ?_ rfl rfl (fun task member => member)
  intro key current
  split
  · exact sameRecord_status current status
  · exact SameRecord.refl current

variable (position : Nat)

theorem sound_endRelease :
    Sound (state.endRelease position) ∧
      (NoOrphans state → NoOrphans (state.endRelease position)) := by
  have same : (state.endRelease position).leases =
      state.leases.mapValues (fun _ lease => lease) := by
    apply ext_entries
    simp [OrderedDict.mapValues, endRelease]
  exact descend_of_status sound rfl same (fun _ lease => SameRecord.refl lease) rfl rfl
    (fun task member => mem_of_mem_eraseIdx member)

theorem sound_call {outcome : CallOutcome} {effect : Supervisor → Supervisor}
    (descends : ∀ supervisor : Supervisor, supervisor.Descends (effect supervisor)) :
    Sound (state.call nodeId outcome effect) ∧
      (NoOrphans state → NoOrphans (state.call nodeId outcome effect)) := by
  have descend : NodesDescend state (state.call nodeId outcome effect) :=
    nodesDescend_call descends
  refine descend_of_nodes sound descend ?_ ?_ ?_ ?_
  all_goals
    unfold call
    split
    · rfl
    · split <;> rfl

theorem sound_dropLease (found : state.leases.get? lease.trajectoryId = some current)
    (sameLease : current.leaseId = lease.leaseId) :
    Sound (state.dropLease lease) ∧
      (NotLeased state lease.leaseId → NoOrphans state → NoOrphans (state.dropLease lease)) := by
  have descend : NodesDescend state (state.dropLease lease) := nodesDescend_of_eq rfl
  have records : RecordsFrom state (state.dropLease lease) := recordsFrom_dropLease lease
  constructor
  · refine sound.descend descend records rfl (inverse_dropLease sound.inverse found sameLease) ?_
    intro task member
    exact (sound.releases task member).descend descend records rfl
  · intro free tracked
    refine tracked.descend descend (recordsKept_dropLease found rfl ?_)
    rw [sameLease]
    exact descend.notLeased free

theorem sound_setPhase {position : Nat} {phase : ReleasePhase}
    (freed : ∀ task, state.releases[position]? = some task →
      phase = .polling ∨ phase = .complete → NotLeased state task.lease.leaseId) :
    Sound (state.setPhase position phase) ∧
      (NoOrphans state → NoOrphans (state.setPhase position phase)) := by
  have descend : NodesDescend state (state.setPhase position phase) := nodesDescend_of_eq rfl
  have records : RecordsFrom state (state.setPhase position phase) := recordsFrom_of_eq rfl
  refine ⟨sound.descend descend records rfl (inverse_of_eq sound.inverse rfl rfl) ?_,
    fun tracked => tracked.descend descend (recordsKept_of_eq rfl)⟩
  intro task member
  obtain ⟨index, found⟩ := mem_iff_getElem?.mp member
  simp only [setPhase, getElem?_modify] at found
  cases before : state.releases[index]? with
  | none =>
    rw [before] at found
    cases found
  | some previous =>
    have previously := sound.releases previous (mem_of_getElem? before)
    rw [before] at found
    simp only [Option.map_eq_map, map_some, some_inj] at found
    subst found
    split
    · rename_i here
      subst here
      have carried := previously.descend descend records rfl
      exact
        { carried with
          freed := fun settled => descend.notLeased (freed previous before settled) }
    · exact previously.descend descend records rfl

theorem sound_release (trajectoryId : Option String) (leaseId : Option LeaseId) :
    Sound (state.release trajectoryId leaseId) ∧
      (NoOrphans state → NoOrphans (state.release trajectoryId leaseId)) := by
  unfold release
  split
  · rename_i lease _ looked
    have located : ∃ key, state.leases.get? key = some lease := by
      unfold lookupLease at looked
      split at looked
      · rename_i byTrajectory
        cases looked
        obtain ⟨key, _, found⟩ := bind_eq_some_iff.mp byTrajectory
        exact ⟨key, found⟩
      · obtain ⟨key, _, found⟩ := bind_eq_some_iff.mp looked
        exact ⟨key, found⟩
    obtain ⟨key, found⟩ := located
    have record := sound.records key lease found
    split
    · exact ⟨sound, fun tracked => tracked⟩
    split
    · rename_i missing
      -- A record's node is always there, so this branch is not taken.
      obtain ⟨supervisor, present, _⟩ := record.issued
      rw [record.node, missing] at present
      cases present
    · obtain ⟨marked, tracked⟩ := sound_setStatus sound lease .releasing
      have descend : NodesDescend (state.setStatus lease .releasing)
        { state.setStatus lease .releasing with
          releases := (state.setStatus lease .releasing).releases ++
            [{ lease := { lease with status := .releasing }
               phase := .calling }] } := nodesDescend_of_eq rfl
      refine ⟨marked.descend descend (recordsFrom_of_eq rfl) rfl
        (inverse_of_eq marked.inverse rfl rfl) ?_,
        fun before => (tracked before).descend descend (recordsKept_of_eq rfl)⟩
      intro task member
      rcases mem_append.mp member with old | new
      · exact (marked.releases task old).descend descend (recordsFrom_of_eq rfl) rfl
      · rw [mem_singleton] at new
        subst new
        refine
          { record with
            record := ?_
            freed := by
              intro settled
              rcases settled with polling | complete
              · cases polling
              · cases complete }
        intro other current present identity
        obtain ⟨previous, before, same⟩ :=
          recordsFrom_setStatus lease .releasing other current present
        have here : other = key := by
          apply sound.identities other key previous lease before found
          rw [← same.recordId]
          exact identity
        subst here
        rw [found, some_inj] at before
        subst before
        exact ⟨same.leaseId, same.trajectoryId⟩
  · exact ⟨sound, fun tracked => tracked⟩

theorem sound_expire (trajectoryId : String) (outcome : CallOutcome) :
    Sound (state.expire trajectoryId outcome) ∧
      (KeepsTrack state (.expire trajectoryId outcome) → NoOrphans state →
        NoOrphans (state.expire trajectoryId outcome)) := by
  unfold expire
  split
  · rename_i lease _ found
    split
    · have record := sound.records trajectoryId lease found
      have current : state.leases.get? lease.trajectoryId = some lease := by
        rw [record.trajectory]
        exact found
      obtain ⟨dropped, _⟩ := sound_dropLease sound current rfl
      have descends (supervisor : Supervisor) : supervisor.Descends
          (supervisor.forceRelease lease.slotId (some lease.leaseId)) :=
        Supervisor.descends_forceRelease lease.slotId (some lease.leaseId)
      refine ⟨(sound_call dropped descends).1, ?_⟩
      intro admitted tracked
      -- Either the call freed the slot, or no slot was leased under the id.
      have free : NotLeased ((state.dropLease lease).call lease.nodeId outcome (fun supervisor =>
          supervisor.forceRelease lease.slotId (some lease.leaseId))) lease.leaseId := by
        by_cases effect : outcome.tookEffect = true
        · obtain ⟨slot, supervisor, present, inSlots⟩ := record.exists_slot
          rw [← record.node] at present
          refine notLeased_of_release dropped.nodes slot.trajectoryId present ?_
          have dropPresent : (state.dropLease lease).nodes.get? lease.nodeId = some supervisor := by
            rw [← record.node]
            exact present
          simp only [call, dropPresent, effect, if_true]
          rw [forceRelease_eq_release inSlots, record.node]
        · have failed : outcome = .failedBeforeEffect := by
            cases outcome with
            | returned => exact absurd rfl effect
            | failedAfterEffect => exact absurd rfl effect
            | failedBeforeEffect => rfl
          have before := admitted failed lease found
          exact (nodesDescend_call descends).notLeased ((nodesDescend_of_eq rfl).notLeased before)
      have descend : NodesDescend state ((state.dropLease lease).call lease.nodeId outcome
          (fun supervisor => supervisor.forceRelease lease.slotId (some lease.leaseId))) :=
        (nodesDescend_call descends).of_nodes_eq rfl
      refine tracked.descend descend (recordsKept_dropLease current ?_ free)
      unfold call
      split
      · rfl
      · split <;> rfl
    · exact ⟨sound, fun _ tracked => tracked⟩
  · exact ⟨sound, fun _ tracked => tracked⟩

theorem sound_dropStale :
    Sound state.dropStale ∧
      (KeepsTrack state .dropStale → NoOrphans state → NoOrphans state.dropStale) := by
  unfold dropStale
  split
  · rename_i trajectoryId holder
    split
    · rename_i lease found
      split
      · rename_i lost
        have current : state.leases.get? lease.trajectoryId = some lease := by
          rw [(sound.records trajectoryId lease found).trajectory]
          exact found
        obtain ⟨dropped, tracked⟩ := sound_dropLease sound current rfl
        exact ⟨dropped, fun admitted => tracked (admitted trajectoryId lease holder found lost)⟩
      · exact ⟨sound, fun _ tracked => tracked⟩
    · exact ⟨sound, fun _ tracked => tracked⟩
  · exact ⟨sound, fun _ tracked => tracked⟩

theorem sound_releaseCall (outcome : CallOutcome) :
    Sound (state.releaseCall position outcome) ∧
      (NoOrphans state → NoOrphans (state.releaseCall position outcome)) := by
  unfold releaseCall
  split
  · rename_i lease found
    have task := sound.releases _ (mem_of_getElem? found)
    have descends (supervisor : Supervisor) : supervisor.Descends
        (supervisor.release (some lease.leaseId) (some lease.trajectoryId)) :=
      Supervisor.descends_release (some lease.leaseId) (some lease.trajectoryId)
    obtain ⟨called, tracked⟩ := sound_call sound descends
    have unchanged : (state.call lease.nodeId outcome (fun supervisor => supervisor.release
        (some lease.leaseId) (some lease.trajectoryId))).releases = state.releases := by
      unfold call
      split
      · rfl
      · split <;> rfl
    refine And.imp_right (fun still before => still (tracked before)) (sound_setPhase called ?_)
    intro current present settled
    rw [unchanged, found, some_inj] at present
    subst present
    by_cases returned : outcome = .returned
    · subst returned
      have sameNode : lease.leaseId.nodeId = lease.nodeId := task.node
      obtain ⟨supervisor, node, _⟩ := task.issued
      have atNode : state.nodes.get? lease.nodeId = some supervisor := by
        rw [← sameNode]
        exact node
      refine notLeased_of_release sound.nodes (some lease.trajectoryId) node ?_
      simp only [call, atNode, CallOutcome.tookEffect, if_true, sameNode]
    · rw [if_neg returned] at settled
      rcases settled with polling | complete
      · cases polling
      · cases complete
  · exact ⟨sound, fun tracked => tracked⟩

theorem sound_pollRelease :
    Sound (state.pollRelease position) ∧
      (NoOrphans state → NoOrphans (state.pollRelease position)) := by
  unfold pollRelease
  split
  · rename_i lease found
    split
    · refine sound_setPhase sound ?_
      intro task present _
      exact (sound.releases task (mem_of_getElem? present)).freed (by
        rw [found, some_inj] at present
        subst present
        exact .inl rfl)
    · exact ⟨sound, fun tracked => tracked⟩
  · exact ⟨sound, fun tracked => tracked⟩

theorem sound_endWithStatus (lease : LeaseRecord) (position : Nat) :
    Sound ((if state.isCurrent lease then state.setStatus lease .lost else state).endRelease
        position) ∧
      (NoOrphans state → NoOrphans ((if state.isCurrent lease then state.setStatus lease .lost
        else state).endRelease position)) := by
  split
  · obtain ⟨marked, tracked⟩ := sound_setStatus sound lease .lost
    obtain ⟨ended, still⟩ := sound_endRelease marked position
    exact ⟨ended, fun before => still (tracked before)⟩
  · exact sound_endRelease sound position

theorem sound_settleRelease :
    Sound (state.settleRelease position) ∧
      (NoOrphans state → NoOrphans (state.settleRelease position)) := by
  unfold settleRelease
  split
  · rename_i lease _ found
    have task := sound.releases _ (mem_of_getElem? found)
    split
    · rename_i isCurrent
      unfold Cluster.isCurrent at isCurrent
      split at isCurrent
      · cases isCurrent
      · rename_i current present
        rw [decide_eq_true_eq] at isCurrent
        have sameLease := (task.record lease.trajectoryId current present isCurrent).1
        obtain ⟨dropped, tracked⟩ := sound_dropLease sound present sameLease
        obtain ⟨ended, still⟩ := sound_endRelease dropped position
        exact ⟨ended, fun before => still (tracked (task.freed (.inr rfl)) before)⟩
    · exact sound_endRelease sound position
  · exact sound_endWithStatus sound _ position
  · exact ⟨sound, fun tracked => tracked⟩

theorem sound_timeOutRelease :
    Sound (state.timeOutRelease position) ∧
      (NoOrphans state → NoOrphans (state.timeOutRelease position)) := by
  unfold timeOutRelease
  split
  · exact sound_endWithStatus sound _ position
  · exact ⟨sound, fun tracked => tracked⟩

theorem sound_stepSupervisor (nodeId : String) (action : Supervisor.Action) :
    Sound (state.stepSupervisor nodeId action) ∧
      (NoOrphans state → NoOrphans (state.stepSupervisor nodeId action)) := by
  unfold stepSupervisor
  split
  · exact ⟨sound, fun tracked => tracked⟩
  · rename_i supervisor found
    split
    · rename_i internal
      exact descend_of_nodes sound
        (nodesDescend_set found (Supervisor.descends_step action internal) rfl) rfl rfl rfl rfl
    · exact ⟨sound, fun tracked => tracked⟩

end

structure LeasesFresh (before after : Cluster) (nodeId : String) (slotId : Nat)
    (leaseId : LeaseId) (trajectoryId : String) : Prop where
  node : leaseId.nodeId = nodeId
  unissued : ¬ Issued before leaseId
  issued : Issued after leaseId
  keeps : ∀ other, Issued before other → Issued after other
  keyed : ∀ other supervisor, after.nodes.get? other = some supervisor → supervisor.nodeId = other
  present : ∀ other position slot, SlotAt before other position slot →
    ∃ current, SlotAt after other position current
  slots : ∀ other position slot, SlotAt after other position slot →
    (other = nodeId ∧ position = slotId ∧ slot.leaseId = some leaseId ∧
      slot.trajectoryId = some trajectoryId) ∨
    SlotAt before other position slot
  leased : ∃ slot, SlotAt after nodeId slotId slot ∧ slot.leaseId = some leaseId ∧
    slot.trajectoryId = some trajectoryId

theorem leasesFresh_of_fresh (sound : NodesSound state) {changed : Supervisor}
    (found : state.nodes.get? nodeId = some supervisor)
    (sameNode : changed.nodeId = supervisor.nodeId)
    (serial : changed.nextSerial = supervisor.nextSerial + 1)
    (slots : ∀ other : Nat, changed.slots[other]? = if slotId = other then some
      { slot with
        status := .leased
        leaseId := some supervisor.newLeaseId
        trajectoryId := some trajectoryId } else supervisor.slots[other]?)
    (same : next.nodes = state.nodes.set nodeId changed) :
    LeasesFresh state next nodeId slotId supervisor.newLeaseId trajectoryId := by
  have nodeName : supervisor.nodeId = nodeId := sound.keyed nodeId supervisor found
  have atNode : next.nodes.get? nodeId = some changed := by
    rw [same, get?_set_self]
  have elsewhere {other : String} (different : other ≠ nodeId) :
      next.nodes.get? other = state.nodes.get? other := by
    rw [same, get?_set_of_ne _ _ different]
  refine
    { node := nodeName
      unissued := ?_
      issued := ?_
      keeps := ?_
      keyed := ?_
      present := ?_
      slots := ?_
      leased := ⟨_, ⟨changed, atNode, by rw [slots, if_pos rfl]⟩, rfl, rfl⟩ }
  · rintro ⟨owner, isOwner, old⟩
    rw [show supervisor.newLeaseId.nodeId = nodeId from nodeName, found, some_inj] at isOwner
    subst isOwner
    exact absurd old (Nat.lt_irrefl _)
  · refine ⟨changed, ?_, ?_⟩
    · rw [show supervisor.newLeaseId.nodeId = nodeId from nodeName]
      exact atNode
    · rw [serial]
      exact Nat.lt_succ_self _
  · rintro other ⟨owner, isOwner, old⟩
    by_cases here : other.nodeId = nodeId
    · rw [here, found, some_inj] at isOwner
      subst isOwner
      refine ⟨changed, by rw [here]; exact atNode, ?_⟩
      rw [serial]
      exact Nat.lt_succ_of_lt old
    · exact ⟨owner, by rw [elsewhere here]; exact isOwner, old⟩
  · intro other current after
    by_cases here : other = nodeId
    · subst here
      rw [atNode, some_inj] at after
      subst after
      rw [sameNode]
      exact nodeName
    · rw [elsewhere here] at after
      exact sound.keyed other current after
  · rintro other position current ⟨owner, isOwner, inOwner⟩
    by_cases here : other = nodeId
    · subst here
      rw [found, some_inj] at isOwner
      subst isOwner
      by_cases atSlot : slotId = position
      · exact ⟨_, changed, atNode, by rw [slots, if_pos atSlot]⟩
      · exact ⟨current, changed, atNode, by rw [slots, if_neg atSlot]; exact inOwner⟩
    · exact ⟨current, owner, by rw [elsewhere here]; exact isOwner, inOwner⟩
  · rintro other position current ⟨owner, isOwner, inOwner⟩
    by_cases here : other = nodeId
    · subst here
      rw [atNode, some_inj] at isOwner
      subst isOwner
      rw [slots] at inOwner
      split at inOwner
      · rename_i atSlot
        cases inOwner
        exact .inl ⟨rfl, atSlot.symm, rfl, rfl⟩
      · exact .inr ⟨supervisor, found, inOwner⟩
    · exact .inr ⟨owner, by rw [← elsewhere here]; exact isOwner, inOwner⟩

theorem LeasesFresh.old (fresh : LeasesFresh state next nodeId slotId leaseId trajectoryId)
    {other : String} {position : Nat} {old : LeaseId} (issued : Issued state old)
    (after : SlotAt next other position slot) (lease : slot.leaseId = some old) :
    SlotAt state other position slot := by
  rcases fresh.slots other position slot after with ⟨_, _, isNew, _⟩ | before
  · rw [lease, some_inj] at isNew
    rw [isNew] at issued
    exact absurd issued fresh.unissued
  · exact before

theorem LeasesFresh.sound (fresh : LeasesFresh state next nodeId slotId leaseId trajectoryId)
    (sound : Sound state) (leases : next.leases = state.leases)
    (byId : next.leasesById = state.leasesById) (ids : next.nextRecordId = state.nextRecordId)
    (releases : next.releases = state.releases) :
    Sound next := by
  have oldLease {other : String} {position : Nat} {slot : SlotRuntime}
      (before : SlotAt state other position slot) : slot.leaseId ≠ some leaseId := by
    intro same
    exact fresh.unissued (sound.nodes.issued other position slot leaseId before same).2
  refine
    { nodes :=
        { keyed := fresh.keyed
          issued := ?_
          distinct := ?_
          leased := ?_ }
      records := ?_
      identities := by rw [leases]; exact sound.identities
      inverse := inverse_of_eq sound.inverse leases byId
      releases := ?_ }
  · intro other position slot held after lease
    rcases fresh.slots other position slot after with ⟨atNode, _, isNew, _⟩ | before
    · rw [lease, some_inj] at isNew
      rw [isNew, atNode]
      exact ⟨fresh.node, fresh.issued⟩
    · obtain ⟨node, issued⟩ := sound.nodes.issued other position slot held before lease
      exact ⟨node, fresh.keeps held issued⟩
  · intro other first second slot slot' held atFirst atSecond lease lease'
    rcases fresh.slots other first slot atFirst with ⟨_, isFirst, isNew, _⟩ | before
    · rcases fresh.slots other second slot' atSecond with ⟨_, isSecond, _, _⟩ | before'
      · rw [isFirst, isSecond]
      · rw [lease, some_inj] at isNew
        rw [isNew] at lease'
        exact absurd lease' (oldLease before')
    · rcases fresh.slots other second slot' atSecond with ⟨_, _, isNew, _⟩ | before'
      · rw [lease', some_inj] at isNew
        rw [isNew] at lease
        exact absurd lease (oldLease before)
      · exact sound.nodes.distinct other first second slot slot' held before before' lease lease'
  · intro other position slot after leased
    rcases fresh.slots other position slot after with ⟨_, _, isNew, _⟩ | before
    · rw [isNew]
      simp
    · exact sound.nodes.leased other position slot before leased
  · intro key lease found
    rw [leases] at found
    have previously := sound.records key lease found
    obtain ⟨slot, before⟩ := previously.exists_slot
    exact
      { previously with
        identity := by rw [ids]; exact previously.identity
        issued := fresh.keeps _ previously.issued
        exists_slot := fresh.present _ _ slot before
        slot := fun other position current after isLease =>
          previously.slot other position current
            (fresh.old previously.issued after isLease) isLease }
  · intro task member
    rw [releases] at member
    have previously := sound.releases task member
    exact
      { identity := by rw [ids]; exact previously.identity
        node := previously.node
        issued := fresh.keeps _ previously.issued
        record := by rw [leases]; exact previously.record
        freed := fun settled other position slot after isLease =>
          previously.freed settled other position slot
            (fresh.old previously.issued after isLease) isLease }

theorem sound_recordLease (sound : Sound state) (absent : state.leases.get? trajectoryId = none)
    (atSlot : SlotAt state nodeId slotId slot) (lease : slot.leaseId = some leaseId)
    (trajectory : slot.trajectoryId = some trajectoryId) :
    Sound (state.recordLease nodeId trajectoryId slotId leaseId) ∧
      ((∀ other position current, SlotAt state other position current →
          current.status = .leased → current.leaseId = some leaseId ∨
            ∃ key record, state.leases.get? key = some record ∧
              current.leaseId = some record.leaseId) →
        NoOrphans (state.recordLease nodeId trajectoryId slotId leaseId)) := by
  obtain ⟨node, issued⟩ := sound.nodes.issued nodeId slotId slot leaseId atSlot lease
  -- The lease is on no record: its slot belongs to this trajectory, which has none.
  have unrecorded (key : String) (record : LeaseRecord)
      (found : state.leases.get? key = some record) : record.leaseId ≠ leaseId := by
    intro same
    have owner := (sound.records key record found).slot nodeId slotId slot atSlot
      (by rw [same]; exact lease)
    rw [trajectory, some_inj] at owner
    rw [← owner, absent] at found
    cases found
  have lookup (key : String) : (state.recordLease nodeId trajectoryId slotId leaseId).leases.get?
      key = if key = trajectoryId then some
        { recordId := state.nextRecordId
          leaseId := leaseId
          trajectoryId := trajectoryId
          nodeId := nodeId
          slotId := slotId
          status := .active } else state.leases.get? key := by
    rw [recordLease, get?_set]
  constructor
  · refine
      { nodes :=
          { keyed := sound.nodes.keyed
            issued := sound.nodes.issued
            distinct := sound.nodes.distinct
            leased := sound.nodes.leased }
        records := ?_
        identities := ?_
        inverse := ?_
        releases := ?_ }
    · intro key record found
      rw [lookup] at found
      split at found
      · rename_i here
        subst here
        cases found
        refine
          { trajectory := rfl
            identity := Nat.lt_succ_self _
            node := node
            issued := issued
            exists_slot := ⟨slot, atSlot⟩
            slot := ?_ }
        intro other position current present isLease
        have sameNode := (sound.nodes.issued other position current leaseId present isLease).1
        rw [← sameNode, node] at present
        have samePosition := sound.nodes.distinct nodeId position slotId current slot leaseId
          present atSlot isLease lease
        subst samePosition
        obtain ⟨supervisor, isNode, inSlots⟩ := present
        obtain ⟨supervisor', isNode', inSlots'⟩ := atSlot
        change state.nodes.get? nodeId = some supervisor at isNode
        rw [isNode, some_inj] at isNode'
        subst isNode'
        rw [inSlots, some_inj] at inSlots'
        subst inSlots'
        exact trajectory
      · have previously := sound.records key record found
        exact
          { previously with
            identity := Nat.lt_succ_of_lt previously.identity }
    · intro first second record other atFirst atSecond identity
      rw [lookup] at atFirst atSecond
      split at atFirst
      · rename_i isFirst
        cases atFirst
        split at atSecond
        · rename_i isSecond
          rw [isFirst, isSecond]
        · have old := (sound.records second other atSecond).identity
          simp only at identity
          omega
      · split at atSecond
        · cases atSecond
          have old := (sound.records first record atFirst).identity
          simp only at identity
          omega
        · exact sound.identities first second record other atFirst atSecond identity
    · intro id key
      have byId : (state.recordLease nodeId trajectoryId slotId leaseId).leasesById.get? id =
          if id = leaseId then some trajectoryId else state.leasesById.get? id := by
        rw [recordLease, get?_set]
      rw [byId, lookup]
      by_cases sameId : id = leaseId
      · subst sameId
        rw [if_pos rfl, some_inj]
        constructor
        · rintro rfl
          exact ⟨_, if_pos rfl, rfl⟩
        · rintro ⟨record, found, sameLease⟩
          split at found
          · rename_i here
            exact here.symm
          · exact absurd sameLease (unrecorded key record found)
      · rw [if_neg sameId, sound.inverse id key]
        by_cases here : key = trajectoryId
        · subst here
          rw [if_pos rfl, absent]
          constructor
          · rintro ⟨record, impossible, _⟩
            cases impossible
          · rintro ⟨record, found, isId⟩
            cases found
            exact absurd isId.symm sameId
        · rw [if_neg here]
    · intro task member
      have previously := sound.releases task member
      refine
        { previously with
          identity := Nat.lt_succ_of_lt previously.identity
          record := ?_ }
      intro key record found identity
      rw [lookup] at found
      split at found
      · cases found
        have old := previously.identity
        simp only at identity
        omega
      · exact previously.record key record found identity
  · intro covered other position current present leased
    rcases covered other position current present leased with isNew | ⟨key, record, found, same⟩
    · exact ⟨trajectoryId, _, by rw [lookup, if_pos rfl], isNew⟩
    · refine ⟨key, record, ?_, same⟩
      have different : key ≠ trajectoryId := by
        rintro rfl
        rw [absent] at found
        cases found
      rw [lookup, if_neg different]
      exact found

theorem sound_remoteAcquire (sound : Sound state) (nodeId : String) (outcome : CallOutcome) :
    Sound (state.remoteAcquire nodeId outcome) ∧
      (KeepsTrack state (.remoteAcquire nodeId outcome) → NoOrphans state →
        NoOrphans (state.remoteAcquire nodeId outcome)) := by
  unfold remoteAcquire
  split
  · rename_i trajectoryId supervisor holder found
    split
    · exact ⟨sound, fun _ tracked => tracked⟩
    · rename_i absent
      dsimp only
      have acquired := Supervisor.acquire_acquired supervisor trajectoryId
      have condition : KeepsTrack state (.remoteAcquire nodeId outcome) →
          outcome = .failedAfterEffect → (supervisor.acquire trajectoryId).1 = none := by
        intro admitted failed
        exact admitted failed trajectoryId supervisor holder found
      generalize (supervisor.acquire trajectoryId).1 = returned at acquired condition ⊢
      generalize (supervisor.acquire trajectoryId).2 = changed at acquired ⊢
      -- The state after the call, before anything is recorded.
      have tables : ∀ effect : Bool, outcome.tookEffect = effect →
          (state.call nodeId outcome (fun _ => changed)).unlock.nodes =
            if effect then state.nodes.set nodeId changed else state.nodes := by
        intro effect same
        cases effect
        · simp [call, found, same, unlock]
        · simp [call, found, same, unlock]
      have unchanged : (state.call nodeId outcome (fun _ => changed)).unlock.leases =
            state.leases ∧
          (state.call nodeId outcome (fun _ => changed)).unlock.leasesById = state.leasesById ∧
          (state.call nodeId outcome (fun _ => changed)).unlock.nextRecordId = state.nextRecordId ∧
          (state.call nodeId outcome (fun _ => changed)).unlock.releases = state.releases := by
        unfold call
        split
        · exact ⟨rfl, rfl, rfl, rfl⟩
        · split <;> exact ⟨rfl, rfl, rfl, rfl⟩
      generalize (state.call nodeId outcome (fun _ => changed)).unlock = called at tables unchanged ⊢
      obtain ⟨leases, byId, ids, releases⟩ := unchanged
      have letGo (descends : supervisor.Descends changed) : NodesDescend state called := by
        cases effect : outcome.tookEffect with
        | false => exact nodesDescend_of_eq (tables false effect)
        | true => exact nodesDescend_set found descends (tables true effect)
      cases acquired with
      | nothing =>
        have settled := descend_of_nodes sound (letGo (Supervisor.Descends.refl supervisor))
          leases byId ids releases
        cases outcome <;> exact ⟨settled.1, fun _ => settled.2⟩
      | again slotId slot leaseId changed inSlots lease trajectory descends sameSlots =>
        have settled := descend_of_nodes sound (letGo descends) leases byId ids releases
        cases outcome with
        | failedBeforeEffect => exact ⟨settled.1, fun _ => settled.2⟩
        | failedAfterEffect => exact ⟨settled.1, fun _ => settled.2⟩
        | returned =>
          have atSlot : SlotAt called nodeId slotId slot := by
            refine ⟨changed, ?_, by rw [sameSlots]; exact inSlots⟩
            rw [tables true rfl, if_pos rfl, get?_set_self]
          obtain ⟨recorded, covered⟩ := sound_recordLease settled.1
            (by rw [leases]; exact absent) atSlot lease trajectory
          exact ⟨recorded, fun _ tracked => covered (fun other position current present
            leased => .inr (settled.2 tracked other position current present leased))⟩
      | fresh slotId slot changed inSlots free sameNode serial slots =>
        cases outcome with
        | failedBeforeEffect =>
          have settled := descend_of_nodes sound
            (nodesDescend_of_eq (tables false rfl)) leases byId ids releases
          exact ⟨settled.1, fun _ => settled.2⟩
        | failedAfterEffect =>
          have fresh := leasesFresh_of_fresh sound.nodes found sameNode serial slots
            (tables true rfl)
          refine ⟨fresh.sound sound leases byId ids releases, fun admitted => ?_⟩
          cases condition admitted rfl
        | returned =>
          have fresh := leasesFresh_of_fresh sound.nodes found sameNode serial slots
            (tables true rfl)
          obtain ⟨leasedSlot, atSlot, lease, trajectory⟩ := fresh.leased
          obtain ⟨recorded, covered⟩ := sound_recordLease
            (fresh.sound sound leases byId ids releases)
            (by rw [leases]; exact absent) atSlot lease trajectory
          refine ⟨recorded, fun _ tracked => covered ?_⟩
          intro other position current present leased
          rcases fresh.slots other position current present with ⟨_, _, isNew, _⟩ | before
          · exact .inl isNew
          · right
            rw [leases]
            exact tracked other position current before leased
  · exact ⟨sound, fun _ tracked => tracked⟩

theorem sound_step (state : Cluster) (action : Action) (sound : Sound state) :
    Sound (state.step action) ∧
      (KeepsTrack state action → NoOrphans state → NoOrphans (state.step action)) := by
  have unconditional {next : Cluster} (both : Sound next ∧ (NoOrphans state → NoOrphans next)) :
      Sound next ∧ (KeepsTrack state action → NoOrphans state → NoOrphans next) :=
    ⟨both.1, fun _ => both.2⟩
  cases action with
  | lock operation =>
    apply unconditional
    simp only [step, lock]
    split
    · exact ⟨sound, fun tracked => tracked⟩
    · exact descend_of_nodes sound (nodesDescend_of_eq rfl) rfl rfl rfl rfl
  | unlock =>
    exact unconditional (descend_of_nodes sound (nodesDescend_of_eq rfl) rfl rfl rfl rfl)
  | listExpired pastDeadline =>
    apply unconditional
    simp only [step, listExpired]
    split
    · exact ⟨sound, fun tracked => tracked⟩
    · exact descend_of_nodes sound (nodesDescend_of_eq rfl) rfl rfl rfl rfl
  | expire trajectoryId outcome => exact sound_expire sound trajectoryId outcome
  | dropStale => exact sound_dropStale sound
  | remoteAcquire nodeId outcome => exact sound_remoteAcquire sound nodeId outcome
  | markNodeLost nodeId => exact unconditional (sound_markNodeLost sound nodeId)
  | release trajectoryId leaseId => exact unconditional (sound_release sound trajectoryId leaseId)
  | releaseCall position outcome => exact unconditional (sound_releaseCall sound position outcome)
  | pollRelease position => exact unconditional (sound_pollRelease sound position)
  | settleRelease position => exact unconditional (sound_settleRelease sound position)
  | timeOutRelease position => exact unconditional (sound_timeOutRelease sound position)
  | supervisor nodeId action => exact unconditional (sound_stepSupervisor sound nodeId action)

variable (nodes : List (String × Nat))

theorem get?_foldl_set (dict : OrderedDict String Supervisor)
    (holds : ∀ key value, dict.get? key = some value →
      ∃ capacity, value = Supervisor.initial key capacity)
    (found : (nodes.foldl (fun dict node =>
      dict.set node.1 (Supervisor.initial node.1 node.2)) dict).get? nodeId = some supervisor) :
    ∃ capacity, supervisor = Supervisor.initial nodeId capacity := by
  induction nodes generalizing dict with
  | nil => exact holds nodeId supervisor found
  | cons node rest ih =>
    refine ih (dict.set node.1 (Supervisor.initial node.1 node.2)) ?_ found
    intro key value present
    rw [get?_set] at present
    split at present
    · rename_i here
      cases present
      exact ⟨node.2, by rw [here]⟩
    · exact holds key value present

theorem get?_initial (found : (initial nodes).nodes.get? nodeId = some supervisor) :
    ∃ capacity, supervisor = Supervisor.initial nodeId capacity :=
  get?_foldl_set nodes OrderedDict.empty (fun _ _ impossible => nomatch impossible) found

theorem sound_initial : Sound (initial nodes) ∧ NoOrphans (initial nodes) := by
  have free {nodeId : String} {slotId : Nat} {slot : SlotRuntime}
      (atSlot : SlotAt (initial nodes) nodeId slotId slot) : slot = SlotRuntime.new := by
    obtain ⟨supervisor, found, inSlots⟩ := atSlot
    obtain ⟨capacity, rfl⟩ := get?_initial nodes found
    exact eq_of_mem_replicate (mem_of_getElem? inSlots)
  constructor
  · refine
      { nodes :=
          { keyed := ?_
            issued := ?_
            distinct := ?_
            leased := ?_ }
        records := fun _ _ impossible => nomatch impossible
        identities := fun _ _ _ _ impossible => nomatch impossible
        inverse := ?_
        releases := fun _ impossible => nomatch impossible }
    · intro nodeId supervisor found
      obtain ⟨capacity, rfl⟩ := get?_initial nodes found
      rfl
    · intro nodeId slotId slot leaseId atSlot lease
      rw [free atSlot] at lease
      cases lease
    · intro nodeId first second slot other leaseId atFirst _ lease
      rw [free atFirst] at lease
      cases lease
    · intro nodeId slotId slot atSlot leased
      rw [free atSlot] at leased
      cases leased
    · intro leaseId trajectoryId
      constructor
      · intro impossible
        cases impossible
      · rintro ⟨lease, impossible, _⟩
        cases impossible
  · intro nodeId slotId slot atSlot leased
    rw [free atSlot] at leased
    cases leased

def Tracked (state : Cluster) : Prop := Sound state ∧ NoOrphans state

theorem tracked_step (state : Cluster) (action : Action) (tracked : Tracked state)
    (kept : KeepsTrack state action) : Tracked (state.step action) :=
  ⟨(sound_step state action tracked.1).1, (sound_step state action tracked.1).2 kept tracked.2⟩

/-- The tables are inverse after every step of every run, and no leased slot is
off the record in a run whose steps keep track of it. -/
theorem no_orphans_of_kept_track (nodes : List (String × Nat)) (actions : List Action)
    (past : List Action) (early : past <+: actions) :
    TablesInverse (Runs.run step (initial nodes) past) ∧
      (Runs.Admits step KeepsTrack (initial nodes) actions →
        NoOrphans (Runs.run step (initial nodes) past)) := by
  constructor
  · exact (Runs.run_preserves (fun state action sound => (sound_step state action sound).1)
      (sound_initial nodes).1 past).inverse
  · intro admitted
    have start : Tracked (initial nodes) := sound_initial nodes
    exact (Runs.prefix_invariant tracked_step start admitted early).2

def acquireOnce (outcome : CallOutcome) : List Action :=
  [.supervisor "node" .startPool, .supervisor "node" (.beginPendingStart 0),
    .supervisor "node" (.endRunningStart 0 true), .lock (.acquire "trajectory"),
    .remoteAcquire "node" outcome]

def expireAndRetry : List Action :=
  acquireOnce .returned ++
    [.lock .reconcile, .listExpired ["trajectory"], .expire "trajectory" .returned, .unlock,
      .supervisor "node" (.beginReset 0 0), .supervisor "node" (.resetStopped 0 true),
      .supervisor "node" (.resetStarted 0 true), .lock (.acquire "next"),
      .remoteAcquire "node" .failedBeforeEffect, .lock (.acquire "next"),
      .remoteAcquire "node" .returned]

theorem no_orphans_of_returned_acquire :
    Runs.Admits step KeepsTrack (initial [("node", 1)]) expireAndRetry ∧
    TablesInverse (Runs.run step (initial [("node", 1)]) expireAndRetry) ∧
    NoOrphans (Runs.run step (initial [("node", 1)]) expireAndRetry) ∧
    (Runs.run step (initial [("node", 1)]) expireAndRetry).leases.keys = ["next"] := by
  have admitted : Runs.Admits step KeepsTrack (initial [("node", 1)]) expireAndRetry :=
    ⟨trivial, trivial, trivial, trivial, nofun, trivial, trivial, nofun, trivial, trivial, trivial,
      trivial, trivial, nofun, trivial, nofun, trivial⟩
  have both := no_orphans_of_kept_track [("node", 1)] expireAndRetry expireAndRetry (prefix_refl _)
  exact ⟨admitted, both.1, both.2 admitted, by decide⟩

/-- The same acquire with an answer that never arrives: the slot is leased, no
operation is under way, and the table is empty. -/
theorem unanswered_acquire_orphans_slot :
    (Runs.run step (initial [("node", 1)]) (acquireOnce .failedAfterEffect)).lockHolder = none ∧
    (Runs.run step (initial [("node", 1)]) (acquireOnce .failedAfterEffect)).releases = [] ∧
    ¬ NoOrphans (Runs.run step (initial [("node", 1)]) (acquireOnce .failedAfterEffect)) := by
  refine ⟨rfl, rfl, ?_⟩
  intro tracked
  obtain ⟨trajectoryId, lease, found, _⟩ := tracked "node" 0
    { status := .leased
      generation := 1
      leaseId := some
        { nodeId := "node"
          serial := 0 }
      trajectoryId := some "trajectory"
      queuedResets := []
      runningReset := none
      pendingStarts := 0
      runningStarts := 0 } ⟨_, rfl, rfl⟩ rfl
  cases found

structure OneOwner (state : Cluster) : Prop where
  slots : ∀ nodeId otherId slotId second slot other leaseId, SlotAt state nodeId slotId slot →
    SlotAt state otherId second other → slot.leaseId = some leaseId →
      other.leaseId = some leaseId → nodeId = otherId ∧ slotId = second
  trajectories : ∀ first second lease other, state.leases.get? first = some lease →
    state.leases.get? second = some other → lease.leaseId = other.leaseId → first = second
  agreed : ∀ trajectoryId lease nodeId slotId slot, state.leases.get? trajectoryId = some lease →
    SlotAt state nodeId slotId slot → slot.leaseId = some lease.leaseId →
      nodeId = lease.nodeId ∧ slot.trajectoryId = some trajectoryId

/-- In every run, whatever calls are lost and whatever nodes are. -/
theorem leases_have_one_owner (nodes : List (String × Nat)) (actions : List Action) :
    OneOwner (Runs.run step (initial nodes) actions) := by
  have sound : Sound (Runs.run step (initial nodes) actions) :=
    Runs.run_preserves (fun state action sound => (sound_step state action sound).1)
      (sound_initial nodes).1 actions
  constructor
  · intro nodeId otherId slotId second slot other leaseId atSlot atOther leased alsoLeased
    have sameNode : nodeId = otherId :=
      (sound.nodes.issued nodeId slotId slot leaseId atSlot leased).1.symm.trans
        (sound.nodes.issued otherId second other leaseId atOther alsoLeased).1
    subst sameNode
    exact ⟨rfl, sound.nodes.distinct _ _ _ _ _ _ atSlot atOther leased alsoLeased⟩
  · intro first second lease other found alsoFound same
    have ofFirst := (sound.inverse lease.leaseId first).mpr ⟨lease, found, rfl⟩
    have ofSecond := (sound.inverse lease.leaseId second).mpr ⟨other, alsoFound, same.symm⟩
    rw [ofFirst, some_inj] at ofSecond
    exact ofSecond
  · intro trajectoryId lease nodeId slotId slot found atSlot leased
    have record := sound.records trajectoryId lease found
    have node := (sound.nodes.issued nodeId slotId slot lease.leaseId atSlot leased).1
    exact ⟨node.symm.trans record.node, record.slot nodeId slotId slot atSlot leased⟩

end Cluster

end Dressage.Sandbox

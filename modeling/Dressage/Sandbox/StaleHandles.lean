/-
What a stale handle reaches.

The supervisor looks for a slot by the lease id alone, so what a call does there is
done to the slot of the lease that the manager found. The manager looks under the
trajectory before it looks at the lease id; a handle whose lease is gone therefore
reaches the lease that its trajectory has now.
-/

import Dressage.Sandbox.ManagerCalls
import Dressage.Sandbox.SlotOrphans

namespace Dressage.Sandbox.Manager

open Lib Option

/-- Every call with both ids affected or used only the lease with its lease id, and
every slot that was acted on for a lease had that lease. -/
structure StaleInert (state : Manager) : Prop where
  uses : ∀ use ∈ state.uses, use.lease = use.asked
  slotUses : ∀ use ∈ state.slotUses, use.slotLease = some use.lease

/-- An open manager does nothing for a lease that is already being released. -/
def ReleaseIdle (state : Manager) (lease : LeaseRecord) : Prop :=
  state.closed = false ∧ lease.status = .releasing

def CallRefused (state : Manager) (lease : LeaseRecord) : Prop :=
  ¬ (lease.status = .active ∧ lease.nodeId ∈ state.cluster.nodes.keys ∧
    lease.nodeId ∉ state.lostNodes)

/-- A call with both ids that finds a lease under its trajectory finds its own lease,
or one that it does nothing with. -/
def MeetsOwnLease (state : Manager) : Action → Prop
  | .cluster (.release (some trajectoryId) (some leaseId)) =>
    state.cluster.lockHolder = none → ∀ lease,
      state.cluster.leases.get? trajectoryId = some lease →
        lease.leaseId = leaseId ∨ state.ReleaseIdle lease
  | .beginCall _ (some trajectoryId) (some leaseId) =>
    state.cluster.lockHolder = none → ∀ lease,
      state.cluster.leases.get? trajectoryId = some lease →
        lease.leaseId = leaseId ∨ state.CallRefused lease
  | _ => True

structure Sound (state : Manager) : Prop where
  cluster : state.cluster.Sound
  inert : StaleInert state

theorem sound_initial (nodes : List (String × Nat)) : Sound (initial nodes) := by
  refine ⟨(Cluster.sound_initial nodes).1, ?_, ?_⟩
  · intro use impossible
    cases impossible
  · intro use impossible
    cases impossible

variable {state : Manager}

variable {trajectoryId : Option String} {leaseId : Option LeaseId} {cluster : Cluster}
variable {lease : LeaseRecord} {slot : SlotRuntime}

theorem lookupLease_found (found : cluster.lookupLease trajectoryId leaseId = some lease) :
    (∃ key, trajectoryId = some key ∧ cluster.leases.get? key = some lease) ∨
      ∃ id key, leaseId = some id ∧ cluster.leasesById.get? id = some key ∧
        cluster.leases.get? key = some lease := by
  unfold Cluster.lookupLease at found
  split at found
  · next present =>
      obtain ⟨key, isKey, atKey⟩ := bind_eq_some_iff.mp present
      cases found
      exact .inl ⟨key, isKey, atKey⟩
  · obtain ⟨key, byId, atKey⟩ := bind_eq_some_iff.mp found
    obtain ⟨id, isId, present⟩ := bind_eq_some_iff.mp byId
    exact .inr ⟨id, key, isId, present, atKey⟩

theorem Sound.own_of_lookup (sound : Sound state) {trajectoryId : String} {leaseId : LeaseId}
    (found : state.cluster.lookupLease (some trajectoryId) (some leaseId) = some lease) :
    state.cluster.leases.get? trajectoryId = some lease ∨ lease.leaseId = leaseId := by
  rcases lookupLease_found found with ⟨key, isKey, atKey⟩ | ⟨id, key, isId, present, atKey⟩
  · rw [some_inj.mp isKey]
    exact .inl atKey
  · obtain ⟨other, atOther, same⟩ := (sound.cluster.inverse id key).mp present
    rw [atKey, some_inj] at atOther
    rw [atOther, some_inj.mp isId]
    exact .inr same

theorem lookupLease_of_trajectory {trajectoryId : String}
    (found : cluster.leases.get? trajectoryId = some lease) (leaseId : Option LeaseId) :
    cluster.lookupLease (some trajectoryId) leaseId = some lease := by
  unfold Cluster.lookupLease
  rw [bind_some, found]

theorem lease_of_slotForLease {supervisor : Supervisor} {leaseId : LeaseId} {slotId : Nat}
    (found : supervisor.slotForLease (some leaseId) trajectoryId = some slotId)
    (atSlot : supervisor.slots[slotId]? = some slot) : slot.leaseId = some leaseId := by
  obtain ⟨inside, holds, _⟩ := List.findIdx?_eq_some_iff_getElem.mp found
  rw [List.getElem?_eq_getElem inside, some_inj] at atSlot
  simp only [Bool.and_eq_true, decide_eq_true_eq, atSlot] at holds
  exact holds.2

theorem lease_of_slotOf {slotId : Nat} (found : state.slotOf lease = some (slotId, slot)) :
    slot.leaseId = some lease.leaseId := by
  unfold slotOf at found
  obtain ⟨supervisor, _, found⟩ := bind_eq_some_iff.mp found
  obtain ⟨index, located, found⟩ := bind_eq_some_iff.mp found
  obtain ⟨other, atSlot, same⟩ := map_eq_some_iff.mp found
  injection same with _ isSlot
  rw [← isSlot]
  exact lease_of_slotForLease located atSlot

section

variable (sound : Sound state)
include sound

theorem Sound.withCluster (next : cluster.Sound) : Sound (state.withCluster cluster) :=
  ⟨next, sound.inert.uses, sound.inert.slotUses⟩

theorem Sound.logUse
    (own : ∀ key asked, trajectoryId = some key → leaseId = some asked →
      lease.leaseId = asked) : Sound (state.logUse trajectoryId leaseId lease) := by
  unfold Manager.logUse
  split
  · next key asked =>
      refine ⟨sound.cluster, ?_, sound.inert.slotUses⟩
      intro use member
      rcases List.mem_append.mp member with old | new
      · exact sound.inert.uses use old
      · rw [List.mem_singleton.mp new]
        exact own key asked rfl rfl
  · exact sound

theorem Sound.logSlot (own : slot.leaseId = some lease.leaseId) :
    Sound (state.logSlot lease slot) := by
  refine ⟨sound.cluster, sound.inert.uses, ?_⟩
  intro use member
  rcases List.mem_append.mp member with old | new
  · exact sound.inert.slotUses use old
  · rw [List.mem_singleton.mp new]
    exact own

theorem Sound.dropLease {key : String} (found : state.cluster.leases.get? key = some lease) :
    (state.cluster.dropLease lease).Sound := by
  have trajectory := (sound.cluster.records key lease found).trajectory
  rw [← trajectory] at found
  exact (Cluster.sound_dropLease sound.cluster found rfl).1

theorem Sound.endCall (position : Nat) : Sound (state.endCall position) :=
  ⟨sound.cluster, sound.inert.uses, sound.inert.slotUses⟩

theorem Sound.release (meets : MeetsOwnLease state (.cluster (.release trajectoryId leaseId))) :
    Sound (state.release trajectoryId leaseId) := by
  unfold Manager.release
  split
  · next lease unlocked found =>
      have own : ¬ state.ReleaseIdle lease → ∀ key asked, trajectoryId = some key →
          leaseId = some asked → lease.leaseId = asked := by
        rintro busy key asked rfl rfl
        rcases sound.own_of_lookup found with atKey | own
        · exact (meets unlocked lease atKey).resolve_right busy
        · exact own
      have next := (Cluster.sound_release sound.cluster trajectoryId leaseId).1
      split
      · next closed =>
          have dropped : (state.cluster.dropLease lease).Sound := by
            rcases lookupLease_found found with ⟨key, _, atKey⟩ | ⟨_, key, _, _, atKey⟩
            · exact sound.dropLease atKey
            · exact sound.dropLease atKey
          refine (sound.withCluster dropped).logUse (own ?_)
          rintro ⟨isOpen, _⟩
          rw [closed] at isOpen
          cases isOpen
      · split
        · exact sound
        · next fresh => exact (sound.withCluster next).logUse (own (fun idle => fresh idle.2))
  · exact sound

theorem Sound.releaseCall (position : Nat) (outcome : CallOutcome) :
    Sound (state.releaseCall position outcome) := by
  have called := sound.withCluster (Cluster.sound_releaseCall sound.cluster position outcome).1
  unfold Manager.releaseCall
  simp only
  split
  · split
    · next found =>
        split
        · exact called.logSlot (lease_of_slotOf found)
        · exact called
    · exact called
  · exact called

theorem Sound.beginCall {kind : CallKind}
    (meets : MeetsOwnLease state (.beginCall kind trajectoryId leaseId)) :
    Sound (state.beginCall kind trajectoryId leaseId) := by
  unfold Manager.beginCall
  split
  · next lease unlocked found =>
      split
      · next served =>
          have sent : Sound (state.sendCall kind lease) :=
            ⟨sound.cluster, sound.inert.uses, sound.inert.slotUses⟩
          apply sent.logUse
          rintro key asked rfl rfl
          rcases sound.own_of_lookup found with atKey | own
          · exact (meets unlocked lease atKey).resolve_right (fun refused => refused served)
          · exact own
      · exact sound
  · exact sound

theorem Sound.reachSupervisor (position : Nat) : Sound (state.reachSupervisor position) := by
  unfold Manager.reachSupervisor
  split
  · next kind lease found =>
      split
      · exact sound.endCall position
      · next slotId slot located =>
          split
          · cases kind with
            | runCommand => exact ⟨sound.cluster, sound.inert.uses, sound.inert.slotUses⟩
            | readFile | writeFile =>
              exact (sound.logSlot (lease_of_slotOf located)).endCall position
          · exact sound.endCall position
  · exact sound

theorem Sound.runCommand (position : Nat) : Sound (state.runCommand position) := by
  unfold Manager.runCommand
  split
  · split
    · exact sound.endCall position
    · next slot _ =>
        split
        · exact sound
        · split
          · next active =>
              simp only [stillActive, Bool.and_eq_true, decide_eq_true_eq] at active
              exact (sound.logSlot active.2.1).endCall position
          · exact sound.endCall position
  · exact sound

end

theorem emptySlot_descends (slot : SlotRuntime) : slot.Descends (emptySlot slot) :=
  { lease := .inl rfl
    leased := fun impossible => nomatch impossible }

theorem Sound.shutDownNode (sound : Sound state) (nodeId : String) :
    Sound (state.shutDownNode nodeId) := by
  unfold Manager.shutDownNode
  split
  · next supervisor _ found =>
      refine ⟨?_, sound.inert.uses, sound.inert.slotUses⟩
      have descends : supervisor.Descends
          { supervisor with slots := supervisor.slots.map emptySlot } := by
        refine
          { node := rfl
            serial := rfl
            size := List.length_map _
            slots := ?_ }
        intro slotId slot atSlot
        simp only [List.getElem?_map] at atSlot
        obtain ⟨before, present, rfl⟩ := map_eq_some_iff.mp atSlot
        exact ⟨before, present, emptySlot_descends before⟩
      have descend : Cluster.NodesDescend state.cluster { state.cluster with
          nodes := state.cluster.nodes.set nodeId
            { supervisor with slots := supervisor.slots.map emptySlot } } :=
        Cluster.nodesDescend_set found descends rfl
      exact (Cluster.descend_of_nodes sound.cluster descend rfl rfl rfl rfl).1
  · exact sound

theorem Sound.close (sound : Sound state) : Sound state.close := by
  refine ⟨?_, sound.inert.uses, sound.inert.slotUses⟩
  have same : state.close.cluster.leases =
      state.cluster.leases.mapValues (fun _ lease => lease) := by
    apply OrderedDict.ext_entries
    simp [OrderedDict.mapValues, Manager.close]
  have both : state.close.cluster.Sound ∧ _ :=
    Cluster.descend_of_status sound.cluster rfl same
      (fun _ lease => Cluster.SameRecord.refl lease) rfl rfl
      (fun _ member => List.mem_of_mem_filter member)
  exact both.1

theorem Sound.stepCluster (sound : Sound state) {action : Cluster.Action}
    (meets : MeetsOwnLease state (.cluster action)) : Sound (state.stepCluster action) := by
  have next : ∀ action, Sound (state.withCluster (state.cluster.step action)) := fun action =>
    sound.withCluster (Cluster.sound_step state.cluster action sound.cluster).1
  unfold Manager.stepCluster
  cases action with
  | release trajectoryId leaseId => exact sound.release meets
  | releaseCall position outcome => exact sound.releaseCall position outcome
  | lock _ | listExpired _ | pollRelease _ | settleRelease _ | timeOutRelease _
  | supervisor nodeId _ =>
    simp only
    split
    · exact sound
    · exact next _
  | remoteAcquire nodeId _ =>
    simp only
    split <;> exact next _
  | unlock | expire _ _ | dropStale | markNodeLost _ => exact next _

theorem Sound.step (sound : Sound state) {action : Action} (meets : MeetsOwnLease state action) :
    Sound (state.step action) := by
  cases action with
  | cluster action => exact sound.stepCluster meets
  | beginCall kind trajectoryId leaseId => exact sound.beginCall meets
  | reachSupervisor position => exact sound.reachSupervisor position
  | runCommand position => exact sound.runCommand position
  | setAlive nodeId alive => exact ⟨sound.cluster, sound.inert.uses, sound.inert.slotUses⟩
  | close => exact sound.close
  | shutDownNode nodeId => exact sound.shutDownNode nodeId
  | dropAtShutdown trajectoryId =>
    unfold Manager.step Manager.dropAtShutdown
    simp only
    split
    · next found => exact sound.withCluster (sound.dropLease found)
    · exact sound

theorem mem_logUse (state : Manager) (trajectoryId : String) (leaseId : LeaseId)
    (lease : LeaseRecord) :
    { asked := leaseId, lease := lease.leaseId : LeaseUse } ∈
      (state.logUse (some trajectoryId) (some leaseId) lease).uses :=
  List.mem_append_right _ (List.mem_singleton_self _)

theorem meetsOwnLease_of_inert {action : Action} (inert : StaleInert (state.step action)) :
    MeetsOwnLease state action := by
  unfold MeetsOwnLease
  split
  · next trajectoryId leaseId =>
      intro unlocked lease found
      by_contra misses
      rw [not_or] at misses
      have looked := lookupLease_of_trajectory found (some leaseId)
      have used : { asked := leaseId, lease := lease.leaseId : LeaseUse } ∈
          (state.release (some trajectoryId) (some leaseId)).uses := by
        unfold Manager.release
        rw [unlocked, looked]
        simp only
        split
        · exact mem_logUse _ _ _ _
        · next isOpen =>
            rw [Bool.not_eq_true] at isOpen
            rw [if_neg (fun releasing => misses.2 ⟨isOpen, releasing⟩)]
            exact mem_logUse _ _ _ _
      exact misses.1 (inert.uses _ used)
  · next kind trajectoryId leaseId =>
      intro unlocked lease found
      by_contra misses
      rw [not_or] at misses
      have looked := lookupLease_of_trajectory found (some leaseId)
      have used : { asked := leaseId, lease := lease.leaseId : LeaseUse } ∈
          (state.beginCall kind (some trajectoryId) (some leaseId)).uses := by
        unfold Manager.beginCall
        rw [unlocked, looked]
        simp only
        rw [if_pos (not_not.mp misses.2)]
        exact mem_logUse _ _ _ _
      exact misses.1 (inert.uses _ used)
  · trivial

/-- Stale handles are inert throughout a run exactly when no call with both ids finds
another lease under its trajectory, unless it does nothing with it. -/
theorem stale_inert_iff_meets_own_lease (nodes : List (String × Nat)) (actions : List Action) :
    (∀ past, past <+: actions → StaleInert (Runs.run step (initial nodes) past)) ↔
      Runs.Admits step MeetsOwnLease (initial nodes) actions := by
  refine Runs.holds_iff_admits ?_ ?_ ?_ (sound_initial nodes) actions
  · exact fun _ _ sound meets => sound.step meets
  · exact fun _ sound => sound.inert
  · exact fun _ _ _ inert => meetsOwnLease_of_inert inert

/-- The slot is leased, given back, seen free and leased again for the same trajectory. -/
def leaseTwice : List Action :=
  [.cluster (.supervisor "node" .startPool),
    .cluster (.supervisor "node" (.beginPendingStart 0)),
    .cluster (.supervisor "node" (.endRunningStart 0 true)),
    .cluster (.lock (.acquire "trajectory")), .cluster (.remoteAcquire "node" .returned),
    .cluster (.release (some "trajectory") (some { nodeId := "node", serial := 0 })),
    .cluster (.releaseCall 0 .returned),
    .cluster (.supervisor "node" (.beginReset 0 0)),
    .cluster (.supervisor "node" (.resetStopped 0 true)),
    .cluster (.supervisor "node" (.resetStarted 0 true)),
    .cluster (.pollRelease 0), .cluster (.settleRelease 0),
    .cluster (.lock (.acquire "trajectory")), .cluster (.remoteAcquire "node" .returned)]

def laterUse : LeaseUse :=
  { asked :=
      { nodeId := "node"
        serial := 0 }
    lease :=
      { nodeId := "node"
        serial := 1 } }

/-- The same release call, repeated after the second acquire, gives the second lease
back: its slot's process is stopped by the reset that follows. -/
theorem repeated_release_takes_later_lease :
    ¬ (∀ (nodes : List (String × Nat)) (actions : List Action),
      StaleInert (Runs.run step (initial nodes) actions)) ∧
    laterUse ∈ (Runs.run step (initial [("node", 1)]) (leaseTwice ++
      [.cluster (.release (some "trajectory")
        (some { nodeId := "node", serial := 0 }))])).uses := by
  have used : laterUse ∈ (Runs.run step (initial [("node", 1)]) (leaseTwice ++
      [.cluster (.release (some "trajectory")
        (some { nodeId := "node", serial := 0 }))])).uses := by
    decide
  refine ⟨fun all => ?_, used⟩
  have same := (all [("node", 1)] _).uses _ used
  cases same

end Dressage.Sandbox.Manager

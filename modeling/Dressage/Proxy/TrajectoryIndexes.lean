/-
Agreement of the trajectory store's two indexes.

Writes and `pop_trajectory` keep it. `read_batch` keeps it for a drained instance exactly as far
as its misplaced `else` allows: the last trajectory must live in that instance alone, every
other one must also live somewhere else.
-/

import Dressage.Lib.Runs
import Dressage.Proxy.TrajectoryStore

namespace Dressage.TrajectoryStore

open Lib List OrderedDict

structure Store.Agree (store : Store) : Prop where
  filedTrajectory : ∀ trajectoryId, ∀ item ∈ store.trajectoryItems trajectoryId,
    item.trajectoryId = trajectoryId
  filedInstance : ∀ instanceId, ∀ item ∈ store.instanceItems instanceId,
    item.instanceId = instanceId
  sameItems : ∀ item, item ∈ store.trajectoryItems item.trajectoryId ↔
    item ∈ store.instanceItems item.instanceId
  onceByTrajectory : ∀ trajectoryId,
    ((store.trajectoryItems trajectoryId).map TrajectorySegment.uid).Nodup
  onceByInstance : ∀ instanceId, ((store.instanceItems instanceId).map TrajectorySegment.uid).Nodup
  uidOnce : ∀ left right, left ∈ store.instanceItems left.instanceId →
    right ∈ store.instanceItems right.instanceId → left.uid = right.uid → left = right
  timestamps : ∀ instanceId,
    instanceId ∈ store.instanceTimestamps.keys ↔ instanceId ∈ store.byInstance.keys

def Store.Readable (store : Store) (item : TrajectorySegment) : Prop :=
  item ∈ store.trajectoryItems item.trajectoryId ∧ item ∈ store.instanceItems item.instanceId

structure Store.KeepsOnly (before after : Store) (keep : TrajectorySegment → Bool) : Prop where
  instanceItems : ∀ instanceId,
    after.instanceItems instanceId = (before.instanceItems instanceId).filter keep
  trajectoryItems : ∀ trajectoryId,
    after.trajectoryItems trajectoryId = (before.trajectoryItems trajectoryId).filter keep
  timestamps : ∀ instanceId,
    instanceId ∈ after.instanceTimestamps.keys ↔ instanceId ∈ after.byInstance.keys

theorem Store.KeepsOnly.agree {before after : Store} {keep : TrajectorySegment → Bool}
    (keeps : before.KeepsOnly after keep) (agree : before.Agree) : after.Agree := by
  refine
    { filedTrajectory := ?_
      filedInstance := ?_
      sameItems := ?_
      onceByTrajectory := ?_
      onceByInstance := ?_
      uidOnce := ?_
      timestamps := keeps.timestamps }
  · intro trajectoryId item member
    rw [keeps.trajectoryItems] at member
    exact agree.filedTrajectory trajectoryId item (mem_of_mem_filter member)
  · intro instanceId item member
    rw [keeps.instanceItems] at member
    exact agree.filedInstance instanceId item (mem_of_mem_filter member)
  · intro item
    rw [keeps.instanceItems, keeps.trajectoryItems, mem_filter, mem_filter, agree.sameItems]
  · intro trajectoryId
    rw [keeps.trajectoryItems]
    exact (agree.onceByTrajectory trajectoryId).sublist (filter_sublist.map _)
  · intro instanceId
    rw [keeps.instanceItems]
    exact (agree.onceByInstance instanceId).sublist (filter_sublist.map _)
  · intro left right leftMember rightMember same
    rw [keeps.instanceItems] at leftMember rightMember
    exact agree.uidOnce left right (mem_of_mem_filter leftMember)
      (mem_of_mem_filter rightMember) same

theorem Store.KeepsOnly.readable {before after : Store} {keep : TrajectorySegment → Bool}
    (keeps : before.KeepsOnly after keep) (item : TrajectorySegment) :
    after.Readable item ↔ before.Readable item ∧ keep item = true := by
  unfold Store.Readable
  rw [keeps.instanceItems, keeps.trajectoryItems, mem_filter, mem_filter]
  constructor
  · rintro ⟨⟨inTrajectory, kept⟩, inInstance, _kept⟩
    exact ⟨⟨inTrajectory, inInstance⟩, kept⟩
  · rintro ⟨⟨inTrajectory, inInstance⟩, kept⟩
    exact ⟨⟨inTrajectory, kept⟩, inInstance, kept⟩

variable (dict : OrderedDict String (List TrajectorySegment)) (uids : List String)

theorem getD_set (key other : String) (items : List TrajectorySegment) :
    (dict.set key items).getD other [] = if other = key then items else dict.getD other [] := by
  unfold OrderedDict.getD
  rw [get?_set]
  split <;> rfl

theorem getD_pop (key other : String) :
    (dict.pop key).getD other [] = if other = key then [] else dict.getD other [] := by
  unfold OrderedDict.getD
  rw [get?_pop]
  split <;> rfl

private theorem getD_appendTo (key other : String) (item : TrajectorySegment) :
    (appendTo dict key item).getD other [] =
      dict.getD other [] ++ if key = other then [item] else [] := by
  unfold appendTo
  rw [getD_set]
  by_cases same : other = key
  · subst other
    rw [if_pos rfl, if_pos rfl]
  · rw [if_neg same, if_neg (Ne.symm same), append_nil]

private theorem touches_items (now : ℚ) (ids : List String) (store : Store) :
    (ids.foldl (fun current id => current.touch now id) store).byInstance = store.byInstance ∧
      (ids.foldl (fun current id => current.touch now id) store).byTrajectory =
        store.byTrajectory := by
  induction ids generalizing store with
  | nil => exact ⟨rfl, rfl⟩
  | cons id rest ih => exact ih (store.touch now id)

private theorem mem_touched (now : ℚ) (ids : List String) (store : Store) (instanceId : String) :
    instanceId ∈ (ids.foldl (fun current id => current.touch now id)
        store).instanceTimestamps.keys ↔
      instanceId ∈ ids ∨ instanceId ∈ store.instanceTimestamps.keys := by
  induction ids generalizing store with
  | nil => simp
  | cons id rest ih =>
    rw [foldl_cons, ih, Store.touch, mem_keys_set, mem_cons]
    tauto

private theorem files_timestamps (items : List TrajectorySegment) (store : Store) :
    (items.foldl Store.fileItem store).instanceTimestamps = store.instanceTimestamps := by
  induction items generalizing store with
  | nil => rfl
  | cons item rest ih => exact ih (store.fileItem item)

private theorem mem_filed_instances (items : List TrajectorySegment) (store : Store)
    (instanceId : String) :
    instanceId ∈ (items.foldl Store.fileItem store).byInstance.keys ↔
      instanceId ∈ items.map TrajectorySegment.instanceId ∨ instanceId ∈ store.byInstance.keys := by
  induction items generalizing store with
  | nil => simp
  | cons item rest ih =>
    rw [foldl_cons, ih, Store.fileItem, appendTo, mem_keys_set, map_cons, mem_cons]
    tauto

private theorem filed_instanceItems (items : List TrajectorySegment) (store : Store)
    (instanceId : String) :
    (items.foldl Store.fileItem store).instanceItems instanceId =
      store.instanceItems instanceId ++
        items.filter (fun item => item.instanceId = instanceId) := by
  induction items generalizing store with
  | nil => simp
  | cons item rest ih =>
    rw [foldl_cons, ih]
    have added : (store.fileItem item).instanceItems instanceId =
        store.instanceItems instanceId ++
          if item.instanceId = instanceId then [item] else [] :=
      getD_appendTo store.byInstance item.instanceId instanceId item
    rw [added, filter_cons]
    by_cases same : item.instanceId = instanceId
    · simp [same]
    · simp [same]

private theorem filed_trajectoryItems (items : List TrajectorySegment) (store : Store)
    (trajectoryId : String) :
    (items.foldl Store.fileItem store).trajectoryItems trajectoryId =
      store.trajectoryItems trajectoryId ++
        items.filter (fun item => item.trajectoryId = trajectoryId) := by
  induction items generalizing store with
  | nil => simp
  | cons item rest ih =>
    rw [foldl_cons, ih]
    have added : (store.fileItem item).trajectoryItems trajectoryId =
        store.trajectoryItems trajectoryId ++
          if item.trajectoryId = trajectoryId then [item] else [] :=
      getD_appendTo store.byTrajectory item.trajectoryId trajectoryId item
    rw [added, filter_cons]
    by_cases same : item.trajectoryId = trajectoryId
    · simp [same]
    · simp [same]

theorem writeItems_instanceItems (store : Store) (now : ℚ) (items : List TrajectorySegment)
    (instanceId : String) :
    (store.writeItems now items).instanceItems instanceId =
      store.instanceItems instanceId ++
        items.filter (fun item => item.instanceId = instanceId) := by
  rw [← filed_instanceItems items store instanceId]
  unfold Store.writeItems Store.instanceItems
  rw [(touches_items now _ _).1]

theorem writeItems_trajectoryItems (store : Store) (now : ℚ) (items : List TrajectorySegment)
    (trajectoryId : String) :
    (store.writeItems now items).trajectoryItems trajectoryId =
      store.trajectoryItems trajectoryId ++
        items.filter (fun item => item.trajectoryId = trajectoryId) := by
  rw [← filed_trajectoryItems items store trajectoryId]
  unfold Store.writeItems Store.trajectoryItems
  rw [(touches_items now _ _).2]

theorem writeItems_timestamps (store : Store) (now : ℚ) (items : List TrajectorySegment)
    (agree : store.Agree) (instanceId : String) :
    instanceId ∈ (store.writeItems now items).instanceTimestamps.keys ↔
      instanceId ∈ (store.writeItems now items).byInstance.keys := by
  unfold Store.writeItems
  rw [mem_touched, (touches_items now _ _).1, mem_filed_instances, files_timestamps,
    agree.timestamps]

/-- New uids keep the store's uids distinct: the batch repeats none, and none is stored. -/
structure FreshUids (store : Store) (items : List TrajectorySegment) : Prop where
  distinct : (items.map TrajectorySegment.uid).Nodup
  unused : ∀ item ∈ items, ∀ stored, stored ∈ store.instanceItems stored.instanceId →
    stored.uid ≠ item.uid

private theorem nodup_append_fresh {stored fresh : List TrajectorySegment}
    (storedOnce : (stored.map TrajectorySegment.uid).Nodup)
    (freshOnce : (fresh.map TrajectorySegment.uid).Nodup)
    (apart : ∀ item ∈ fresh, ∀ old ∈ stored, old.uid ≠ item.uid) :
    ((stored ++ fresh).map TrajectorySegment.uid).Nodup := by
  rw [map_append, nodup_append]
  refine ⟨storedOnce, freshOnce, ?_⟩
  intro left leftMember right rightMember same
  obtain ⟨old, oldMember, rfl⟩ := mem_map.mp leftMember
  obtain ⟨item, itemMember, rfl⟩ := mem_map.mp rightMember
  exact apart item itemMember old oldMember same

variable {items : List TrajectorySegment} {store : Store} {item : TrajectorySegment}
variable {instanceId : String} {event : Event} {events : List Event}

section

variable (agree : store.Agree)
include agree

theorem writeItems_agree (now : ℚ) (fresh : FreshUids store items) :
    (store.writeItems now items).Agree := by
  have stored : ∀ trajectoryId, ∀ old ∈ store.trajectoryItems trajectoryId,
      old ∈ store.instanceItems old.instanceId := by
    intro trajectoryId old member
    have filed := agree.filedTrajectory trajectoryId old member
    rw [← filed] at member
    exact (agree.sameItems old).mp member
  have uidInBatch : ∀ left ∈ items, ∀ right ∈ items, left.uid = right.uid → left = right :=
    fun left leftMember right rightMember same =>
      inj_on_of_nodup_map fresh.distinct leftMember rightMember same
  refine
    { filedTrajectory := ?_
      filedInstance := ?_
      sameItems := ?_
      onceByTrajectory := ?_
      onceByInstance := ?_
      uidOnce := ?_
      timestamps := writeItems_timestamps store now items agree }
  · intro trajectoryId item member
    rw [writeItems_trajectoryItems, mem_append] at member
    rcases member with old | added
    · exact agree.filedTrajectory trajectoryId item old
    · simpa using (mem_filter.mp added).2
  · intro instanceId item member
    rw [writeItems_instanceItems, mem_append] at member
    rcases member with old | added
    · exact agree.filedInstance instanceId item old
    · simpa using (mem_filter.mp added).2
  · intro item
    rw [writeItems_trajectoryItems, writeItems_instanceItems, mem_append, mem_append,
      agree.sameItems item]
    simp only [mem_filter, decide_true, and_true]
  · intro trajectoryId
    rw [writeItems_trajectoryItems]
    refine nodup_append_fresh (agree.onceByTrajectory trajectoryId)
      (fresh.distinct.sublist (filter_sublist.map _)) ?_
    intro item added old member
    exact fresh.unused item (mem_of_mem_filter added) old (stored trajectoryId old member)
  · intro instanceId
    rw [writeItems_instanceItems]
    refine nodup_append_fresh (agree.onceByInstance instanceId)
      (fresh.distinct.sublist (filter_sublist.map _)) ?_
    intro item added old member
    have filed := agree.filedInstance instanceId old member
    rw [← filed] at member
    exact fresh.unused item (mem_of_mem_filter added) old member
  · intro left right leftMember rightMember same
    rw [writeItems_instanceItems, mem_append, mem_filter] at leftMember rightMember
    rcases leftMember with leftOld | ⟨leftNew, _⟩
    · rcases rightMember with rightOld | ⟨rightNew, _⟩
      · exact agree.uidOnce left right leftOld rightOld same
      · exact absurd same (fresh.unused right rightNew left leftOld)
    · rcases rightMember with rightOld | ⟨rightNew, _⟩
      · exact absurd same.symm (fresh.unused left leftNew right rightOld)
      · exact uidInBatch left leftNew right rightNew same

private theorem uid_mem_iff {drained : List TrajectorySegment}
    (fromStore : ∀ item ∈ drained, item ∈ store.instanceItems item.instanceId)
    (stored : item ∈ store.instanceItems item.instanceId) :
    item.uid ∈ drained.map TrajectorySegment.uid ↔ item ∈ drained := by
  constructor
  · intro member
    obtain ⟨other, otherMember, same⟩ := mem_map.mp member
    have equal := agree.uidOnce other item (fromStore other otherMember) stored same
    rwa [← equal]
  · exact mem_map_of_mem

private theorem stored_of_trajectory {trajectoryId : String}
    (member : item ∈ store.trajectoryItems trajectoryId) :
    item ∈ store.instanceItems item.instanceId := by
  have filed := agree.filedTrajectory trajectoryId item member
  rw [← filed] at member
  exact (agree.sameItems item).mp member

private theorem stored_of_instance (member : item ∈ store.instanceItems instanceId) :
    item ∈ store.instanceItems item.instanceId := by
  rwa [agree.filedInstance instanceId item member]

end

private theorem forget_instanceItems (now : ℚ) (store : Store) (instanceId other : String) :
    (store.forgetInInstance uids now instanceId).instanceItems other =
      if other = instanceId then
        (store.instanceItems instanceId).filter (fun item => item.uid ∉ uids)
      else store.instanceItems other := by
  unfold Store.forgetInInstance
  by_cases emptied : (store.instanceItems instanceId).filter (fun item => item.uid ∉ uids) = []
  · simp only [if_pos emptied]
    unfold Store.instanceItems at *
    rw [getD_pop]
    by_cases same : other = instanceId
    · rw [if_pos same, if_pos same, emptied]
    · rw [if_neg same, if_neg same]
  · simp only [if_neg emptied]
    unfold Store.instanceItems at *
    rw [getD_set]

private theorem forget_timestamps (now : ℚ) (store : Store) (instanceId : String)
    (timestamps : ∀ id, id ∈ store.instanceTimestamps.keys ↔ id ∈ store.byInstance.keys)
    (id : String) :
    id ∈ (store.forgetInInstance uids now instanceId).instanceTimestamps.keys ↔
      id ∈ (store.forgetInInstance uids now instanceId).byInstance.keys := by
  simp only [Store.forgetInInstance]
  split
  · rw [mem_keys_pop, mem_keys_pop, timestamps]
  · rw [mem_keys_set, mem_keys_set, timestamps]

private theorem forget_byTrajectory (now : ℚ) (store : Store) (instanceId : String) :
    (store.forgetInInstance uids now instanceId).byTrajectory = store.byTrajectory := by
  simp only [Store.forgetInInstance]
  split <;> rfl

private theorem forgets_instanceItems (now : ℚ) (ids : List String) (store : Store)
    (instanceId : String) :
    (ids.foldl (Store.forgetInInstance uids now) store).instanceItems instanceId =
      if instanceId ∈ ids then
        (store.instanceItems instanceId).filter (fun item => item.uid ∉ uids)
      else store.instanceItems instanceId := by
  induction ids generalizing store with
  | nil => simp
  | cons id rest ih =>
    rw [foldl_cons, ih, forget_instanceItems]
    by_cases atHead : instanceId = id
    · subst id
      simp only [if_true, mem_cons_self, filter_filter, Bool.and_self, ite_self]
    · rw [if_neg atHead]
      simp only [mem_cons, atHead, false_or]

private theorem forgets_byTrajectory (now : ℚ) (ids : List String) (store : Store) :
    (ids.foldl (Store.forgetInInstance uids now) store).byTrajectory = store.byTrajectory := by
  induction ids generalizing store with
  | nil => rfl
  | cons id rest ih => rw [foldl_cons, ih, forget_byTrajectory]

private theorem forgets_timestamps (now : ℚ) (ids : List String) (store : Store)
    (timestamps : ∀ id, id ∈ store.instanceTimestamps.keys ↔ id ∈ store.byInstance.keys)
    (instanceId : String) :
    instanceId ∈ (ids.foldl (Store.forgetInInstance uids now) store).instanceTimestamps.keys ↔
      instanceId ∈ (ids.foldl (Store.forgetInInstance uids now) store).byInstance.keys := by
  induction ids generalizing store with
  | nil => exact timestamps instanceId
  | cons id rest ih => exact ih _ (forget_timestamps uids now store id timestamps)

private theorem popped_subset (store : Store) (trajectoryId : String)
    (instanceId : Option String) :
    ∀ item ∈ store.popped trajectoryId instanceId, item ∈ store.trajectoryItems trajectoryId := by
  intro item member
  unfold Store.popped matching at member
  cases instanceId with
  | none => exact member
  | some id => exact mem_of_mem_filter member

private theorem remaining_eq (existing : List TrajectorySegment) (instanceId : Option String) :
    remainingByTrajectory existing instanceId =
      existing.filter (fun item => item ∉ matching existing instanceId) := by
  unfold remainingByTrajectory matching
  cases instanceId with
  | none =>
    symm
    rw [filter_eq_nil_iff]
    intro item member
    simpa only [decide_not, Bool.not_eq_true', decide_eq_false_iff_not, not_not] using member
  | some id =>
    apply filter_congr
    intro item member
    simp [member]

private theorem keep_trajectoryItems (store : Store) (trajectoryId other : String)
    (remaining : List TrajectorySegment) :
    (store.keepInTrajectory trajectoryId remaining).trajectoryItems other =
      if other = trajectoryId then remaining else store.trajectoryItems other := by
  unfold Store.keepInTrajectory Store.trajectoryItems
  by_cases emptied : remaining = []
  · simp only [emptied, if_true, getD_pop]
  · simp only [if_neg emptied, getD_set]

private theorem popped_instanceItems {store : Store} (agree : store.Agree)
    {drained : List TrajectorySegment}
    (fromStore : ∀ item ∈ drained, item ∈ store.instanceItems item.instanceId)
    (instanceId : String) :
    (if instanceId ∈ (drained.map TrajectorySegment.instanceId).dedup then
      (store.instanceItems instanceId).filter
        (fun item => item.uid ∉ drained.map TrajectorySegment.uid)
      else store.instanceItems instanceId) =
      (store.instanceItems instanceId).filter (fun item => item ∉ drained) := by
  split
  · apply filter_congr
    intro item member
    simp only [uid_mem_iff agree fromStore (stored_of_instance agree member)]
  · rename_i untouched
    symm
    rw [filter_eq_self]
    intro item member
    simp only [decide_eq_true_eq]
    intro inDrained
    apply untouched
    rw [mem_dedup, ← agree.filedInstance instanceId item member]
    exact mem_map_of_mem inDrained

private theorem popped_trajectoryItems (agree : store.Agree) (trajectoryId : String)
    (instanceId : Option String) (other : String) :
    (if other = trajectoryId then
      remainingByTrajectory (store.trajectoryItems trajectoryId) instanceId
      else store.trajectoryItems other) =
      (store.trajectoryItems other).filter
        (fun item => item ∉ store.popped trajectoryId instanceId) := by
  split
  · rename_i target
    subst other
    exact remaining_eq (store.trajectoryItems trajectoryId) instanceId
  · rename_i elsewhere
    symm
    rw [filter_eq_self]
    intro item member
    simp only [decide_eq_true_eq]
    intro inDrained
    have here := agree.filedTrajectory other item member
    have there := agree.filedTrajectory trajectoryId item
      (popped_subset store trajectoryId instanceId item inDrained)
    exact elsewhere (here.symm.trans there)

theorem popTrajectory_keepsOnly (agree : store.Agree) (now : ℚ) (trajectoryId : String)
    (instanceId segmentView : Option String) :
    store.KeepsOnly (store.popTrajectory now trajectoryId instanceId segmentView).2
      (fun item => item ∉ store.popped trajectoryId instanceId) := by
  have fromStore : ∀ item ∈ store.popped trajectoryId instanceId,
      item ∈ store.instanceItems item.instanceId := fun item member =>
    stored_of_trajectory agree (popped_subset store trajectoryId instanceId item member)
  unfold Store.popTrajectory
  by_cases emptyMatch : store.popped trajectoryId instanceId = []
  · rw [if_pos emptyMatch, emptyMatch]
    exact
      { instanceItems := by intro id; simp
        trajectoryItems := by intro id; simp
        timestamps := agree.timestamps }
  · rw [if_neg emptyMatch]
    refine
      { instanceItems := ?_
        trajectoryItems := ?_
        timestamps := forgets_timestamps _ now _ _ agree.timestamps }
    · intro id
      rw [forgets_instanceItems]
      exact popped_instanceItems agree fromStore id
    · intro id
      rw [← popped_trajectoryItems agree trajectoryId instanceId id, ← keep_trajectoryItems]
      unfold Store.trajectoryItems
      rw [forgets_byTrajectory]

private def survivors (items : List TrajectorySegment) (trajectoryId : String)
    (existing : List TrajectorySegment) : List TrajectorySegment :=
  existing.filter (fun old =>
    ∀ item ∈ items, item.trajectoryId = trajectoryId → old.uid ≠ item.uid)

private theorem removeItem_getD (byTrajectory : OrderedDict String (List TrajectorySegment))
    (item : TrajectorySegment) (trajectoryId : String)
    (survives : survivors [item] trajectoryId (byTrajectory.getD trajectoryId []) ≠ [] ∨
      item.trajectoryId ≠ trajectoryId) :
    (removeItem byTrajectory item).getD trajectoryId [] =
      survivors [item] trajectoryId (byTrajectory.getD trajectoryId []) := by
  by_cases target : item.trajectoryId = trajectoryId
  · subst trajectoryId
    have sameFilter : (byTrajectory.getD item.trajectoryId []).filter
        (fun existing => existing.uid ≠ item.uid) =
        survivors [item] item.trajectoryId (byTrajectory.getD item.trajectoryId []) := by
      unfold survivors
      apply filter_congr
      intro old _member
      simp
    have nonempty := survives.resolve_right (fun different => different rfl)
    simp only [removeItem, sameFilter]
    rw [if_neg nonempty, getD_set, if_pos rfl]
  · have allSurvive : survivors [item] trajectoryId (byTrajectory.getD trajectoryId []) =
        byTrajectory.getD trajectoryId [] := by
      unfold survivors
      rw [filter_eq_self]
      intro old _member
      simp [target]
    rw [allSurvive]
    simp only [removeItem]
    split
    · rfl
    · rw [getD_set, if_neg (Ne.symm target)]

private theorem survivors_cons (item : TrajectorySegment) (rest : List TrajectorySegment)
    (trajectoryId : String) (existing : List TrajectorySegment) :
    survivors (item :: rest) trajectoryId existing =
      survivors rest trajectoryId (survivors [item] trajectoryId existing) := by
  unfold survivors
  rw [filter_filter]
  apply filter_congr
  intro old _member
  rw [← Bool.decide_and]
  simp only [forall_mem_cons, not_mem_nil, false_implies, implies_true, and_true]
  exact decide_eq_decide.mpr and_comm

private theorem survivors_ne_nil {trajectoryId : String} {existing : List TrajectorySegment}
    (nonempty : survivors items trajectoryId existing ≠ []) : existing ≠ [] := by
  intro empty
  rw [empty] at nonempty
  exact nonempty rfl

private theorem removeItems_getD (items : List TrajectorySegment)
    (byTrajectory : OrderedDict String (List TrajectorySegment)) (trajectoryId : String)
    (survives : survivors items trajectoryId (byTrajectory.getD trajectoryId []) ≠ [] ∨
      ∀ item ∈ items, item.trajectoryId ≠ trajectoryId) :
    (items.foldl removeItem byTrajectory).getD trajectoryId [] =
      survivors items trajectoryId (byTrajectory.getD trajectoryId []) := by
  induction items generalizing byTrajectory with
  | nil => simp [survivors]
  | cons item rest ih =>
    rw [survivors_cons] at survives ⊢
    have headSurvives :
        survivors [item] trajectoryId (byTrajectory.getD trajectoryId []) ≠ [] ∨
          item.trajectoryId ≠ trajectoryId := by
      rcases survives with nonempty | apart
      · exact .inl (survivors_ne_nil nonempty)
      · exact .inr (apart item mem_cons_self)
    have headStep := removeItem_getD byTrajectory item trajectoryId headSurvives
    rw [foldl_cons, ← headStep]
    apply ih
    rw [headStep]
    rcases survives with nonempty | apart
    · exact .inl nonempty
    · exact .inr (fun other member => apart other (mem_cons_of_mem item member))

def Store.drainOrder (store : Store) (instanceId : String) : List TrajectorySegment :=
  (store.instanceItems instanceId).insertionSort batchOrder

/-- The condition under which draining one instance keeps the indexes in step: its
last trajectory is stored in no other instance, and every other trajectory it
touches is also stored in another instance. -/
def Store.DrainClean (store : Store) (instanceId : String) : Prop :=
  ∀ final ∈ (store.drainOrder instanceId).getLast?,
    (∀ item ∈ store.trajectoryItems final.trajectoryId, item.instanceId = instanceId) ∧
    ∀ item ∈ store.instanceItems instanceId, item.trajectoryId ≠ final.trajectoryId →
      ∃ other ∈ store.trajectoryItems item.trajectoryId, other.instanceId ≠ instanceId

instance (store : Store) (instanceId : String) : Decidable (store.DrainClean instanceId) := by
  unfold Store.DrainClean
  infer_instance

private theorem survivors_drained (agree : store.Agree) (instanceId trajectoryId : String) :
    survivors (store.drainOrder instanceId) trajectoryId (store.trajectoryItems trajectoryId) =
      (store.trajectoryItems trajectoryId).filter (fun item => item.instanceId ≠ instanceId) := by
  unfold survivors
  apply filter_congr
  intro old member
  have oldStored := stored_of_trajectory agree member
  simp only [decide_eq_decide]
  constructor
  · intro differs same
    rw [same] at oldStored
    have inOrder : old ∈ store.drainOrder instanceId := (mem_insertionSort _).mpr oldStored
    exact differs old inOrder (agree.filedTrajectory trajectoryId old member) rfl
  · intro elsewhere item inOrder _sameTrajectory sameUid
    have itemMember := (mem_insertionSort _).mp inOrder
    have equal := agree.uidOnce old item oldStored (stored_of_instance agree itemMember) sameUid
    exact elsewhere (equal ▸ agree.filedInstance instanceId item itemMember)

private theorem drained_trajectoryItems (agree : store.Agree) (clean : store.DrainClean instanceId)
    (trajectoryId : String) :
    (store.drainInstance instanceId).2.trajectoryItems trajectoryId =
      (store.trajectoryItems trajectoryId).filter (fun item => item.instanceId ≠ instanceId) := by
  change (dropLastTrajectory ((store.drainOrder instanceId).foldl removeItem store.byTrajectory)
    (store.drainOrder instanceId)).getD trajectoryId [] = _
  have loop : survivors (store.drainOrder instanceId) trajectoryId
        (store.trajectoryItems trajectoryId) ≠ [] ∨
      (∀ item ∈ store.drainOrder instanceId, item.trajectoryId ≠ trajectoryId) →
      ((store.drainOrder instanceId).foldl removeItem store.byTrajectory).getD trajectoryId [] =
        (store.trajectoryItems trajectoryId).filter (fun item => item.instanceId ≠ instanceId) := by
    intro survives
    rw [← survivors_drained agree]
    exact removeItems_getD (store.drainOrder instanceId) store.byTrajectory trajectoryId survives
  unfold dropLastTrajectory
  cases lastItem : (store.drainOrder instanceId).getLast? with
  | none =>
    have nothing : store.drainOrder instanceId = [] := getLast?_eq_none_iff.mp lastItem
    exact loop (.inr (by rw [nothing]; intro item member; cases member))
  | some final =>
    obtain ⟨alone, shared⟩ := clean final lastItem
    by_cases isLast : trajectoryId = final.trajectoryId
    · subst trajectoryId
      rw [getD_pop, if_pos rfl]
      symm
      rw [filter_eq_nil_iff]
      intro item member
      simpa using alone item member
    · rw [getD_pop, if_neg isLast]
      apply loop
      by_cases touched : ∃ item ∈ store.instanceItems instanceId, item.trajectoryId = trajectoryId
      · obtain ⟨item, member, sameTrajectory⟩ := touched
        obtain ⟨other, otherMember, elsewhere⟩ :=
          shared item member (fun same => isLast (sameTrajectory.symm.trans same))
        left
        rw [survivors_drained agree]
        rw [sameTrajectory] at otherMember
        exact ne_nil_of_mem (mem_filter.mpr ⟨otherMember, by simpa using elsewhere⟩)
      · right
        intro item member same
        exact touched ⟨item, (mem_insertionSort _).mp member, same⟩

theorem drainInstance_keepsOnly (agree : store.Agree) (clean : store.DrainClean instanceId) :
    store.KeepsOnly (store.drainInstance instanceId).2
      (fun item => item.instanceId ≠ instanceId) := by
  refine
    { instanceItems := ?_
      trajectoryItems := drained_trajectoryItems agree clean
      timestamps := ?_ }
  · intro id
    change (store.byInstance.pop instanceId).getD id [] = _
    rw [getD_pop]
    by_cases drained : id = instanceId
    · rw [if_pos drained]
      symm
      rw [filter_eq_nil_iff]
      intro item member
      simpa [drained] using agree.filedInstance id item member
    · rw [if_neg drained]
      change store.instanceItems id = _
      symm
      rw [filter_eq_self]
      intro item member
      rw [agree.filedInstance id item member]
      simpa using drained
  · intro id
    change id ∈ (store.instanceTimestamps.pop instanceId).keys ↔
      id ∈ (store.byInstance.pop instanceId).keys
    rw [mem_keys_pop, mem_keys_pop, agree.timestamps]

/-- Every instance of a batch is drained cleanly, each from the store the previous
drains left. -/
def Store.DrainsClean : Store → List String → Prop
  | _, [] => True
  | store, instanceId :: rest =>
    store.DrainClean instanceId ∧ (store.drainInstance instanceId).2.DrainsClean rest

instance decidableDrainsClean :
    (ids : List String) → (store : Store) → Decidable (store.DrainsClean ids)
  | [], _ => inferInstanceAs (Decidable True)
  | instanceId :: rest, store =>
    have := decidableDrainsClean rest (store.drainInstance instanceId).2
    inferInstanceAs (Decidable (store.DrainClean instanceId ∧
      (store.drainInstance instanceId).2.DrainsClean rest))

theorem drainInstances_keepsOnly (agree : store.Agree) {ids : List String}
    (clean : store.DrainsClean ids) :
    store.KeepsOnly (store.drainInstances ids).2 (fun item => item.instanceId ∉ ids) := by
  induction ids generalizing store with
  | nil =>
    exact
      { instanceItems := by intro id; simp [Store.drainInstances]
        trajectoryItems := by intro id; simp [Store.drainInstances]
        timestamps := agree.timestamps }
  | cons instanceId rest ih =>
    have first := drainInstance_keepsOnly agree clean.1
    have later := ih (first.agree agree) clean.2
    have merged : ∀ items : List TrajectorySegment,
        (items.filter (fun item => item.instanceId ≠ instanceId)).filter
            (fun item => item.instanceId ∉ rest) =
          items.filter (fun item => item.instanceId ∉ instanceId :: rest) := by
      intro items
      rw [filter_filter]
      apply filter_congr
      intro item _member
      rw [← Bool.decide_and]
      simp only [mem_cons, not_or, ne_eq, decide_eq_decide]
      exact and_comm
    exact
      { instanceItems := by
          intro id
          rw [← merged, ← first.instanceItems]
          exact later.instanceItems id
        trajectoryItems := by
          intro id
          rw [← merged, ← first.trajectoryItems]
          exact later.trajectoryItems id
        timestamps := later.timestamps }

def Store.CleanCall (store : Store) (event : Event) : Prop :=
  match event.op with
  | .readBatch maxGroups => store.DrainsClean (store.batchInstances event.now maxGroups)
  | _ => True

instance (store : Store) (event : Event) : Decidable (store.CleanCall event) := by
  unfold Store.CleanCall
  cases event.op <;> infer_instance

private theorem step_of_written (store : Store)
    (isWrite : (∃ item, event.op = .write item) ∨ ∃ records, event.op = .writeMany records) :
    store.step event = store.writeItems event.now event.written := by
  rcases isWrite with ⟨item, op⟩ | ⟨records, op⟩
  · simp only [Store.step, Event.written, op, Store.write]
  · simp only [Store.step, Event.written, op, Store.writeMany]
    cases preparedItems event.now records with
    | error message => rfl
    | ok items => rfl

private theorem mem_drained_batch (agree : store.Agree) (ids : List String)
    (stored : item ∈ store.instanceItems item.instanceId) :
    item ∈ ids.flatMap store.instanceItems ↔ item.instanceId ∈ ids := by
  rw [mem_flatMap]
  constructor
  · rintro ⟨instanceId, drained, member⟩
    rwa [agree.filedInstance instanceId item member]
  · intro drained
    exact ⟨item.instanceId, drained, stored⟩

inductive Store.StepEffect (store : Store) (event : Event) : Prop
  | files (after : store.step event = store.writeItems event.now event.written)
    (nothing : store.drainedBy event = [])
  | drains (keep : TrajectorySegment → Bool) (keeps : store.KeepsOnly (store.step event) keep)
    (dropped : ∀ item, item ∈ store.instanceItems item.instanceId →
      (keep item = true ↔ item ∉ store.drainedBy event))
    (silent : event.written = [])

section

variable (agree : store.Agree)
include agree

theorem step_effect (clean : store.CleanCall event) : store.StepEffect event := by
  cases op : event.op with
  | write item =>
    exact .files (step_of_written store (.inl ⟨item, op⟩)) (by simp only [Store.drainedBy, op])
  | writeMany records =>
    exact .files (step_of_written store (.inr ⟨records, op⟩)) (by simp only [Store.drainedBy, op])
  | readTrajectory trajectoryId instanceId segmentView =>
    refine .files ?_ (by simp only [Store.drainedBy, op])
    simp only [Store.step, Event.written, op]
    rfl
  | popTrajectory trajectoryId instanceId segmentView =>
    refine .drains (fun item => item ∉ store.popped trajectoryId instanceId) ?_ ?_
      (by simp only [Event.written, op])
    · simp only [Store.step, op]
      exact popTrajectory_keepsOnly agree event.now trajectoryId instanceId segmentView
    · intro item _stored
      simp only [Store.drainedBy, op, decide_eq_true_eq]
  | readBatch maxGroups =>
    simp only [Store.CleanCall, op] at clean
    refine .drains (fun item => item.instanceId ∉ store.batchInstances event.now maxGroups) ?_ ?_
      (by simp only [Event.written, op])
    · simp only [Store.step, op]
      exact drainInstances_keepsOnly agree clean
    · intro item stored
      simp only [Store.drainedBy, op, decide_eq_true_eq, mem_drained_batch agree _ stored]

theorem step_agree (clean : store.CleanCall event) (fresh : FreshUids store event.written) :
    (store.step event).Agree := by
  cases step_effect agree clean with
  | files after nothing =>
    rw [after]
    exact writeItems_agree agree event.now fresh
  | drains keep keeps dropped silent => exact keeps.agree agree

theorem stored_after_step (clean : store.CleanCall event)
    (stored : item ∈ (store.step event).instanceItems item.instanceId) :
    item ∈ event.written ∨
      item ∈ store.instanceItems item.instanceId ∧ item ∉ store.drainedBy event := by
  cases step_effect agree clean with
  | files after nothing =>
    rw [after, writeItems_instanceItems, mem_append, mem_filter] at stored
    rcases stored with old | ⟨added, _same⟩
    · exact .inr ⟨old, by rw [nothing]; exact not_mem_nil⟩
    · exact .inl added
  | drains keep keeps dropped silent =>
    rw [keeps.instanceItems, mem_filter] at stored
    exact .inr ⟨stored.1, (dropped item stored.1).mp stored.2⟩

theorem readable_after_step (clean : store.CleanCall event) (readable : store.Readable item)
    (spared : item ∉ store.drainedBy event) :
    (store.step event).Readable item := by
  cases step_effect agree clean with
  | files after nothing =>
    rw [after]
    unfold Store.Readable
    rw [writeItems_instanceItems, writeItems_trajectoryItems]
    exact ⟨mem_append_left _ readable.1, mem_append_left _ readable.2⟩
  | drains keep keeps dropped silent =>
    exact (keeps.readable item).mpr ⟨readable, (dropped item readable.2).mpr spared⟩

end

private theorem mem_filterSegmentView {segmentView : Option String}
    (member : item ∈ filterSegmentView items segmentView) :
    item ∈ items := by
  unfold filterSegmentView at member
  split at member
  · exact member
  · exact mem_of_mem_filter member

private theorem mem_batchGroup (member : item ∈ batchGroup items) : item ∈ items := by
  unfold batchGroup at member
  rw [mem_insertionSort, mem_flatMap] at member
  obtain ⟨trajectoryId, _known, inView⟩ := member
  exact mem_of_mem_filter (mem_filterSegmentView inView)

private theorem mem_drainInstances {ids : List String}
    (member : item ∈ (store.drainInstances ids).1.flatten) :
    ∃ instanceId, item ∈ store.instanceItems instanceId := by
  induction ids generalizing store with
  | nil => simp [Store.drainInstances] at member
  | cons instanceId rest ih =>
    simp only [Store.drainInstances, flatten_cons, mem_append] at member
    rcases member with first | later
    · exact ⟨instanceId, (mem_insertionSort _).mp (mem_batchGroup first)⟩
    · obtain ⟨other, stored⟩ := ih later
      change item ∈ (store.byInstance.pop instanceId).getD other [] at stored
      rw [getD_pop] at stored
      split at stored
      · cases stored
      · exact ⟨other, stored⟩

theorem stored_of_reply (agree : store.Agree) (returned : item ∈ store.reply event) :
    item ∈ store.instanceItems item.instanceId := by
  cases op : event.op with
  | write written => simp [Store.reply, op] at returned
  | writeMany records => simp [Store.reply, op] at returned
  | readTrajectory trajectoryId instanceId segmentView =>
    simp only [Store.reply, op, Store.readTrajectory, mem_insertionSort] at returned
    exact stored_of_trajectory agree
      (popped_subset store trajectoryId instanceId item (mem_filterSegmentView returned))
  | popTrajectory trajectoryId instanceId segmentView =>
    simp only [Store.reply, op, Store.popTrajectory] at returned
    split at returned
    · cases returned
    · rw [mem_insertionSort] at returned
      exact stored_of_trajectory agree
        (popped_subset store trajectoryId instanceId item (mem_filterSegmentView returned))
  | readBatch maxGroups =>
    simp only [Store.reply, op] at returned
    obtain ⟨instanceId, stored⟩ := mem_drainInstances returned
    exact stored_of_instance agree stored

def writtenBy (events : List Event) : List TrajectorySegment := events.flatMap Event.written

structure IndexesAgree (start : Store) (events : List Event) : Prop where
  agree : ∀ past, past <+: events → (Runs.run Store.step start past).Agree
  neverAgain : ∀ past event later read, past ++ event :: (later ++ [read]) <+: events →
    ∀ item ∈ (Runs.run Store.step start past).drainedBy event,
      item ∉ (Runs.run Store.step start (past ++ event :: later)).reply read
  spared : ∀ past event, past ++ [event] <+: events →
    ∀ item, (Runs.run Store.step start past).Readable item →
      item ∉ (Runs.run Store.step start past).drainedBy event →
      (Runs.run Store.step start (past ++ [event])).Readable item

private def Store.Admissible (store : Store) (event : Event) : Prop :=
  store.CleanCall event ∧ FreshUids store event.written

private theorem fresh_of_distinct {written later : List TrajectorySegment}
    (distinct : ((written ++ later).map TrajectorySegment.uid).Nodup)
    (apart : ∀ stored, stored ∈ store.instanceItems stored.instanceId →
      stored.uid ∉ (written ++ later).map TrajectorySegment.uid) : FreshUids store written := by
  constructor
  · rw [map_append] at distinct
    exact distinct.of_append_left
  · intro item member stored storedMember same
    apply apart stored storedMember
    rw [same]
    exact mem_map_of_mem (mem_append_left later member)

private theorem admissible_of_distinct (agree : store.Agree)
    (clean : Runs.Admits Store.step Store.CleanCall store events)
    (distinct : ((writtenBy events).map TrajectorySegment.uid).Nodup)
    (apart : ∀ stored, stored ∈ store.instanceItems stored.instanceId →
      stored.uid ∉ (writtenBy events).map TrajectorySegment.uid) :
    Runs.Admits Store.step Store.Admissible store events := by
  induction events generalizing store with
  | nil => trivial
  | cons event rest ih =>
    obtain ⟨cleanCall, cleanRest⟩ := clean
    have split : writtenBy (event :: rest) = event.written ++ writtenBy rest :=
      flatMap_cons
    rw [split] at distinct apart
    have fresh : FreshUids store event.written := fresh_of_distinct distinct apart
    refine ⟨⟨cleanCall, fresh⟩, ih (step_agree agree cleanCall fresh) cleanRest ?_ ?_⟩
    · rw [map_append] at distinct
      exact distinct.of_append_right
    · intro stored storedMember used
      rcases stored_after_step agree cleanCall storedMember with added | ⟨old, _kept⟩
      · rw [map_append, nodup_append] at distinct
        exact distinct.2.2 _ (mem_map_of_mem added) _ used rfl
      · refine apart stored old ?_
        rw [map_append]
        exact mem_append_right _ used

private theorem admissible_step (store : Store) (event : Event) (agree : store.Agree)
    (admissible : store.Admissible event) : (store.step event).Agree :=
  step_agree agree admissible.1 admissible.2

private theorem absent_run (agree : store.Agree)
    (admitted : Runs.Admits Store.step Store.Admissible store events)
    (absent : item ∉ store.instanceItems item.instanceId) (unwritten : item ∉ writtenBy events) :
    item ∉ (Runs.run Store.step store events).instanceItems item.instanceId := by
  induction events generalizing store with
  | nil => exact absent
  | cons event rest ih =>
    obtain ⟨admissible, admittedRest⟩ := admitted
    have split : writtenBy (event :: rest) = event.written ++ writtenBy rest :=
      flatMap_cons
    rw [split, mem_append, not_or] at unwritten
    refine ih (admissible_step store event agree admissible) admittedRest ?_ unwritten.2
    intro stored
    rcases stored_after_step agree admissible.1 stored with added | ⟨old, _kept⟩
    · exact unwritten.1 added
    · exact absent old

private theorem written_of_stored (agree : store.Agree)
    (admitted : Runs.Admits Store.step Store.Admissible store events)
    (absent : item ∉ store.instanceItems item.instanceId)
    (stored : item ∈ (Runs.run Store.step store events).instanceItems item.instanceId) :
    item ∈ writtenBy events := by
  by_contra unwritten
  exact absent_run agree admitted absent unwritten stored

theorem drained_stored (agree : store.Agree) (drained : item ∈ store.drainedBy event) :
    item ∈ store.instanceItems item.instanceId := by
  cases op : event.op with
  | write written => simp [Store.drainedBy, op] at drained
  | writeMany records => simp [Store.drainedBy, op] at drained
  | readTrajectory trajectoryId instanceId segmentView => simp [Store.drainedBy, op] at drained
  | popTrajectory trajectoryId instanceId segmentView =>
    simp only [Store.drainedBy, op] at drained
    exact stored_of_trajectory agree (popped_subset store trajectoryId instanceId item drained)
  | readBatch maxGroups =>
    simp only [Store.drainedBy, op, mem_flatMap] at drained
    obtain ⟨instanceId, _inBatch, member⟩ := drained
    exact stored_of_instance agree member

private theorem drains_write_nothing (drained : item ∈ store.drainedBy event) :
    event.written = [] := by
  cases op : event.op with
  | write written => simp [Store.drainedBy, op] at drained
  | writeMany records => simp [Store.drainedBy, op] at drained
  | readTrajectory trajectoryId instanceId segmentView => simp only [Event.written, op]
  | popTrajectory trajectoryId instanceId segmentView => simp only [Event.written, op]
  | readBatch maxGroups => simp only [Event.written, op]

private theorem empty_items (minGroupSize : Int) (groupTimeout : ℚ) (instanceId : String) :
    (Store.initial minGroupSize groupTimeout).instanceItems instanceId = [] := rfl

theorem initial_agree (minGroupSize : Int) (groupTimeout : ℚ) :
    (Store.initial minGroupSize groupTimeout).Agree := by
  refine
    { filedTrajectory := ?_
      filedInstance := ?_
      sameItems := fun _ => Iff.rfl
      onceByTrajectory := fun _ => nodup_nil
      onceByInstance := fun _ => nodup_nil
      uidOnce := ?_
      timestamps := fun _ => Iff.rfl }
  · intro trajectoryId item member
    cases member
  · intro instanceId item member
    cases member
  · intro left right member _ _
    cases member

private theorem drained_gone (agree : store.Agree) {later : List Event}
    (admitted : Runs.Admits Store.step Store.Admissible store (event :: later))
    (drained : item ∈ store.drainedBy event) (unwritten : item ∉ writtenBy later) :
    item ∉ (Runs.run Store.step store (event :: later)).instanceItems item.instanceId := by
  obtain ⟨admissible, admittedLater⟩ := admitted
  rw [Runs.run_cons]
  refine absent_run (admissible_step _ _ agree admissible) admittedLater ?_ unwritten
  intro stored
  rcases stored_after_step agree admissible.1 stored with added | ⟨_old, kept⟩
  · rw [drains_write_nothing drained] at added
    cases added
  · exact kept drained

private theorem unwritten_later {past later final : List Event}
    (distinct : ((writtenBy (past ++ event :: later ++ final)).map TrajectorySegment.uid).Nodup)
    (written : item ∈ writtenBy past) : item ∉ writtenBy later := by
  intro writtenLater
  have spread : writtenBy (past ++ event :: later ++ final) =
      writtenBy past ++ (event.written ++ (writtenBy later ++ writtenBy final)) := by
    simp [writtenBy]
  rw [spread, map_append, nodup_append] at distinct
  refine distinct.2.2 _ (mem_map_of_mem written) item.uid ?_ rfl
  exact mem_map_of_mem (mem_append_right _ (mem_append_left _ writtenLater))

/-- Runs whose segments have distinct uids and whose batch reads are clean keep the
two indexes in agreement, never return a drained segment again, and leave every
other segment readable. -/
theorem indexes_agree_of_clean (minGroupSize : Int) (groupTimeout : ℚ) (events : List Event)
    (distinct : ((writtenBy events).map TrajectorySegment.uid).Nodup)
    (clean : Runs.Admits Store.step Store.CleanCall (Store.initial minGroupSize groupTimeout)
      events) :
    IndexesAgree (Store.initial minGroupSize groupTimeout) events := by
  have agreeStart := initial_agree minGroupSize groupTimeout
  have admitted : Runs.Admits Store.step Store.Admissible
      (Store.initial minGroupSize groupTimeout) events := by
    apply admissible_of_distinct agreeStart clean distinct
    intro stored member
    cases member
  have agreeAt : ∀ past, past <+: events →
      (Runs.run Store.step (Store.initial minGroupSize groupTimeout) past).Agree := by
    intro past early
    exact Runs.prefix_invariant admissible_step agreeStart admitted early
  have admittedAt : ∀ past later, past ++ later <+: events →
      Runs.Admits Store.step Store.Admissible (Store.initial minGroupSize groupTimeout) past ∧
      Runs.Admits Store.step Store.Admissible
        (Runs.run Store.step (Store.initial minGroupSize groupTimeout) past) later := by
    rintro past later ⟨final, rfl⟩
    rw [Runs.admits_append] at admitted
    exact (Runs.admits_append _ _ _ past later).mp admitted.1
  refine { agree := agreeAt, neverAgain := ?_, spared := ?_ }
  · intro past event later read early item drained returned
    have earlyLater : past ++ event :: later <+: events :=
      List.IsPrefix.trans ⟨[read], by simp⟩ early
    obtain ⟨admittedPast, admittedLater⟩ := admittedAt past (event :: later) earlyLater
    have agreePast := agreeAt past (List.IsPrefix.trans (prefix_append _ _) early)
    have stored := stored_of_reply (agreeAt _ earlyLater) returned
    rw [Runs.run_append] at stored
    have writtenPast : item ∈ writtenBy past :=
      written_of_stored agreeStart admittedPast (by rw [empty_items]; exact not_mem_nil)
        (drained_stored agreePast drained)
    obtain ⟨final, rfl⟩ := earlyLater
    exact drained_gone agreePast admittedLater drained (unwritten_later distinct writtenPast) stored
  · intro past event early item readable spared
    have admissible := (admittedAt past [event] early).2.1
    have agreePast := agreeAt past (List.IsPrefix.trans (prefix_append _ _) early)
    rw [Runs.run_snoc]
    exact readable_after_step agreePast admissible.1 readable spared

def shortSegment (uid trajectoryId instanceId : String) : TrajectorySegment :=
  { uid := uid
    trajectoryId := trajectoryId
    turnId := "-"
    instanceId := instanceId
    segmentIndex := 0
    segmentCount := 1
    tokens := [7]
    fullLogprobs := .resident [0]
    fullLossMask := [1]
    alignedResponseLength := 1
    fullVersions := none
    finishReason := "stop"
    timestamp := 0
    extraInfo :=
      { segmentView := none
        tokenBuildMode := none
        finalizationId := none
        finalizationComplete := none } }

def singleTrajectoryRun : List Event :=
  [ { now := 0, op := .write (shortSegment "u1" "t1" "i1") },
    { now := 1, op := .readBatch none },
    { now := 2, op := .readTrajectory "t1" none none } ]

theorem indexes_agree_single :
    ((writtenBy singleTrajectoryRun).map TrajectorySegment.uid).Nodup ∧
      IndexesAgree (Store.initial 1 300) singleTrajectoryRun :=
  ⟨by decide, indexes_agree_of_clean 1 300 singleTrajectoryRun (by decide) (by decide)⟩

/-- Two trajectories of one instance: the batch read drains both. -/
def sharedInstanceRun : List Event :=
  [ { now := 0, op := .write (shortSegment "u1" "t1" "i1") },
    { now := 0, op := .write (shortSegment "u2" "t2" "i1") },
    { now := 1, op := .readBatch none },
    { now := 2, op := .readTrajectory "t1" none none } ]

/-- The drained segment of the first trajectory is returned again by an exact read. -/
theorem shared_instance_returned_again :
    ((writtenBy sharedInstanceRun).map TrajectorySegment.uid).Nodup ∧
      ¬ IndexesAgree (Store.initial 1 300) sharedInstanceRun := by
  refine ⟨by decide, ?_⟩
  intro promise
  have once := promise.neverAgain (sharedInstanceRun.take 2) { now := 1, op := .readBatch none } []
    { now := 2, op := .readTrajectory "t1" none none } (prefix_refl sharedInstanceRun)
    (shortSegment "u1" "t1" "i1")
  exact once (by decide) (by decide)

end Dressage.TrajectoryStore

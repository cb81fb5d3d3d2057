/-
The processed reward of a sample.

A live sample gets the reward of its trajectory's anchor, normalized with the
rewards of the anchors of its group. A removed sample keeps its raw reward.
-/

import Dressage.Training.RewardPostProcess

namespace Dressage.Training

open Lib List Option

variable {K : Type}

def segmentsOf (trajectory : String) (samples : List (Sample K)) : List (Sample K) :=
  samples.filter (fun sample => sample.liveParent = some trajectory)

structure IsAnchor (trajectory : String) (samples : List (Sample K)) (anchor : Sample K) :
    Prop where
  member : anchor ∈ segmentsOf trajectory samples
  highest : ∀ sample ∈ segmentsOf trajectory samples, sample.segment ≤ anchor.segment

variable {trajectory : String} {sample : Sample K} {index : Nat} {rawRewards rewards : List K}
variable {args : Args K}

variable {samples : List (Sample K)}

theorem mem_segmentsOf :
    sample ∈ segmentsOf trajectory samples ↔
      sample ∈ samples ∧ sample.liveParent = some trajectory := by
  simp [segmentsOf]

theorem mem_entries : (sample, index) ∈ samples.zipIdx ↔ samples[index]? = some sample := by
  rw [mem_zipIdx_iff_getElem?]

theorem nodup_entries (samples : List (Sample K)) : samples.zipIdx.Nodup := by
  refine List.Nodup.of_map Prod.snd ?_
  rw [zipIdx_map_snd]
  exact nodup_range'

theorem liveParent_eq_some :
    sample.liveParent = some trajectory ↔ sample.live = true ∧ sample.parent = some trajectory := by
  unfold Sample.liveParent Sample.live
  cases sample.removeSample <;> simp

def membersOf (trajectory : String) (samples : List (Sample K)) : List Nat :=
  (ofKey (fun entry : Sample K × Nat => entry.1.liveParent) trajectory samples.zipIdx).map Prod.snd

theorem mem_membersOf :
    index ∈ membersOf trajectory samples ↔
      ∃ sample, samples[index]? = some sample ∧ sample.liveParent = some trajectory := by
  unfold membersOf
  constructor
  · intro member
    obtain ⟨⟨sample, position⟩, inside, same⟩ := List.mem_map.mp member
    simp only at same
    subst same
    obtain ⟨entry, keyed⟩ := mem_ofKey.mp inside
    exact ⟨sample, mem_entries.mp entry, keyed⟩
  · rintro ⟨sample, found, keyed⟩
    exact List.mem_map.mpr ⟨(sample, index), mem_ofKey.mpr ⟨mem_entries.mpr found, keyed⟩, rfl⟩

theorem members_entry (found : samples[index]? = some sample)
    (keyed : sample.liveParent = some trajectory) :
    (trajectory, membersOf trajectory samples) ∈ (parentGroups samples).entries :=
  @bucket_of_item _ _ _ _ (fun entry : Sample K × Nat => entry.1.liveParent) Prod.snd _
    (sample, index) _ (mem_entries.mpr found) keyed

theorem entry_members {samples : List (Sample K)} {entry : String × List Nat}
    (member : entry ∈ (parentGroups samples).entries) :
    entry.2 = membersOf entry.1 samples :=
  bucket_eq member

def segmentAt (samples : List (Sample K)) (index : Nat) : Int :=
  (samples[index]?).elim 0 Sample.segment

private theorem foldl_highest (samples : List (Sample K)) (rest : List Nat) (first : Nat) :
    let best := rest.foldl
      (fun best index =>
        if segmentAt samples best < segmentAt samples index then index else best) first
    best ∈ first :: rest ∧ ∀ index ∈ first :: rest, segmentAt samples index ≤ segmentAt samples best := by
  induction rest generalizing first with
  | nil => simp
  | cons next rest ih =>
    simp only [foldl_cons]
    by_cases above : segmentAt samples first < segmentAt samples next
    · rw [if_pos above]
      obtain ⟨inside, highest⟩ := ih next
      refine ⟨mem_cons_of_mem first inside, ?_⟩
      intro index member
      rcases mem_cons.mp member with atHead | later
      · rw [atHead]
        exact le_trans (le_of_lt above) (highest next mem_cons_self)
      · exact highest index later
    · rw [if_neg above]
      obtain ⟨inside, highest⟩ := ih first
      refine ⟨?_, ?_⟩
      · rcases mem_cons.mp inside with atHead | later
        · rw [atHead]
          exact mem_cons_self
        · exact mem_cons_of_mem first (mem_cons_of_mem next later)
      · intro index member
        rcases mem_cons.mp member with atHead | later
        · rw [atHead]
          exact highest first mem_cons_self
        · rcases mem_cons.mp later with atNext | inRest
          · rw [atNext]
            exact le_trans (not_lt.mp above) (highest first mem_cons_self)
          · exact highest index (mem_cons_of_mem first inRest)

theorem highestSegment_spec {samples : List (Sample K)} {indices : List Nat}
    (nonempty : indices ≠ []) :
    ∃ best ∈ indices, highestSegment samples indices = some best ∧
      ∀ index ∈ indices, segmentAt samples index ≤ segmentAt samples best := by
  cases indices with
  | nil => exact absurd rfl nonempty
  | cons first rest =>
    obtain ⟨inside, highest⟩ := foldl_highest samples rest first
    exact ⟨_, inside, rfl, highest⟩

theorem parentAnchor_spec {trajectory : String} (nonempty : membersOf trajectory samples ≠ []) :
    ∃ best ∈ membersOf trajectory samples, parentAnchor samples trajectory = some best ∧
      ∀ index ∈ membersOf trajectory samples, segmentAt samples index ≤ segmentAt samples best := by
  obtain ⟨best, inside, chosen, highest⟩ :=
    @highestSegment_spec K samples (membersOf trajectory samples) nonempty
  refine ⟨best, inside, ?_, highest⟩
  obtain ⟨index, member⟩ := exists_mem_of_ne_nil _ nonempty
  obtain ⟨sample, found, keyed⟩ := mem_membersOf.mp member
  have bucket := members_entry found keyed
  have looked := OrderedDict.get?_of_mem bucket
  unfold parentAnchor
  rw [looked, bind_some]
  exact chosen

theorem parentAnchor_mem {anchor : Nat} (chosen : parentAnchor samples trajectory = some anchor) :
    anchor ∈ membersOf trajectory samples := by
  unfold parentAnchor at chosen
  obtain ⟨members, looked, highest⟩ := bind_eq_some_iff.mp chosen
  have same := entry_members (OrderedDict.mem_of_get? looked)
  simp only at same
  have nonempty : members ≠ [] := by
    intro empty
    rw [empty] at highest
    cases highest
  obtain ⟨best, inside, sameBest, _⟩ := @highestSegment_spec K samples members nonempty
  rw [highest, some_inj] at sameBest
  rw [sameBest, ← same]
  exact inside

theorem membersOf_disjoint {first second : String} (inFirst : index ∈ membersOf first samples)
    (inSecond : index ∈ membersOf second samples) :
    first = second := by
  obtain ⟨sample, found, keyed⟩ := mem_membersOf.mp inFirst
  obtain ⟨other, foundOther, keyedOther⟩ := mem_membersOf.mp inSecond
  rw [found, some_inj] at foundOther
  rw [← foundOther, keyed, some_inj] at keyedOther
  exact keyedOther

theorem representative_iff (found : samples[index]? = some sample) :
    representative samples (sample, index) = true ↔
      sample.live = true ∧
        (sample.liveParent = none ∨
          ∃ trajectory, sample.liveParent = some trajectory ∧
            parentAnchor samples trajectory = some index) := by
  unfold representative
  cases alive : sample.live with
  | false => simp
  | true =>
    have notRemoved : sample.removeSample = false := by
      unfold Sample.live at alive
      simpa using alive
    have parents : sample.liveParent = sample.parent := by
      unfold Sample.liveParent
      rw [notRemoved]
      rfl
    cases named : sample.parent with
    | none => simp [parents, named]
    | some trajectory =>
      have keyed : sample.liveParent = some trajectory := parents.trans named
      simp only [Bool.true_and, isNone_some, Bool.or_false, decide_eq_true_eq, keyed,
        true_and, reduceCtorEq, false_or, Option.some.injEq, exists_eq_left']
      unfold parentRepresentativeIndices
      rw [mem_filterMap]
      constructor
      · rintro ⟨other, _, chosen⟩
        have inOther := parentAnchor_mem chosen
        have inOwn := mem_membersOf.mpr ⟨sample, found, keyed⟩
        rw [membersOf_disjoint inOwn inOther]
        exact chosen
      · intro chosen
        exact ⟨trajectory, List.mem_map_of_mem (members_entry found keyed), chosen⟩

def anchorOf (samples : List (Sample K)) (sample : Sample K) : Sample K :=
  match sample.liveParent with
  | none => sample
  | some trajectory =>
    ((parentAnchor samples trajectory).bind (fun anchor => samples[anchor]?)).getD sample

theorem anchor_exists (found : samples[index]? = some sample)
    (keyed : sample.liveParent = some trajectory) :
    ∃ position anchor, parentAnchor samples trajectory = some position ∧
      samples[position]? = some anchor ∧ anchorOf samples sample = anchor ∧
        IsAnchor trajectory samples anchor := by
  have member := mem_membersOf.mpr ⟨sample, found, keyed⟩
  obtain ⟨position, inside, chosen, highest⟩ := parentAnchor_spec (ne_nil_of_mem member)
  obtain ⟨anchor, foundAnchor, keyedAnchor⟩ := mem_membersOf.mp inside
  refine ⟨position, anchor, chosen, foundAnchor, ?_, ?_, ?_⟩
  · simp [anchorOf, keyed, chosen, foundAnchor]
  · exact mem_segmentsOf.mpr ⟨mem_of_getElem? foundAnchor, keyedAnchor⟩
  · intro other memberOther
    obtain ⟨inSamples, keyedOther⟩ := mem_segmentsOf.mp memberOther
    obtain ⟨place, foundOther⟩ := mem_iff_getElem?.mp inSamples
    have below := highest place (mem_membersOf.mpr ⟨other, foundOther, keyedOther⟩)
    simpa [segmentAt, foundOther, foundAnchor] using below

private theorem foldl_broadcastTo (groups : List (String × List Nat)) (values : List K)
    (separate : groups.Pairwise (fun first second => first.2.Disjoint second.2))
    (anchored : ∀ group ∈ groups, ∃ anchor ∈ group.2, parentAnchor samples group.1 = some anchor)
    (inRange : ∀ group ∈ groups, ∀ index ∈ group.2, index < values.length) :
    (∀ group ∈ groups, ∀ index ∈ group.2, ∀ anchor, parentAnchor samples group.1 = some anchor →
        (groups.foldl (broadcastTo samples) values)[index]? = values[anchor]?) ∧
      ∀ index, (∀ group ∈ groups, index ∉ group.2) →
        (groups.foldl (broadcastTo samples) values)[index]? = values[index]? := by
  induction groups generalizing values with
  | nil => simp
  | cons group rest ih =>
    obtain ⟨apart, separateRest⟩ := pairwise_cons.mp separate
    obtain ⟨anchor, inside, chosen⟩ := anchored group mem_cons_self
    have anchorInRange := inRange group mem_cons_self anchor inside
    have filled : broadcastTo samples values group =
        fillAt values group.2 (values.get ⟨anchor, anchorInRange⟩) := by
      unfold broadcastTo
      rw [chosen, bind_some, getElem?_eq_getElem anchorInRange]
      rfl
    have later := ih (broadcastTo samples values group) separateRest
      (fun other member => anchored other (mem_cons_of_mem group member))
      (fun other member index inOther => by
        rw [filled, length_fillAt]
        exact inRange other (mem_cons_of_mem group member) index inOther)
    rw [foldl_cons]
    refine ⟨?_, ?_⟩
    · intro other member index inOther otherAnchor otherChosen
      rcases mem_cons.mp member with atHead | inRest
      · subst atHead
        rw [chosen, some_inj] at otherChosen
        subst otherChosen
        have untouched : ∀ next ∈ rest, index ∉ next.2 :=
          fun next inRest inNext => apart next inRest inOther inNext
        rw [later.2 index untouched, filled,
          fillAt_inside inOther (inRange other mem_cons_self index inOther),
          getElem?_eq_getElem anchorInRange]
        rfl
      · obtain ⟨found, inFound, sameAnchor⟩ := anchored other member
        rw [otherChosen, some_inj] at sameAnchor
        subst sameAnchor
        rw [later.1 other inRest index inOther otherAnchor otherChosen, filled,
          fillAt_outside (fun inGroup => apart other inRest inGroup inFound)]
    · intro index outside
      rw [later.2 index (fun next member => outside next (mem_cons_of_mem group member)),
        filled, fillAt_outside (outside group mem_cons_self)]

section Broadcast

variable {samples : List (Sample K)} {values : List K}

private theorem parentGroups_separate :
    (parentGroups samples).entries.Pairwise (fun first second => first.2.Disjoint second.2) := by
  have distinct := (parentGroups samples).distinct
  rw [List.Nodup, pairwise_map] at distinct
  refine List.Pairwise.imp_of_mem ?_ distinct
  intro first second inFirst inSecond different index member memberSecond
  rw [entry_members inFirst] at member
  rw [entry_members inSecond] at memberSecond
  exact different (membersOf_disjoint member memberSecond)

private theorem parentGroups_anchored :
    ∀ group ∈ (parentGroups samples).entries,
      ∃ anchor ∈ group.2, parentAnchor samples group.1 = some anchor := by
  intro group member
  have keyed : group.1 ∈ (parentGroups samples).keys := List.mem_map_of_mem member
  obtain ⟨entry, inside, parent⟩ := (mem_keys_bucketBy _ _ _ _).mp keyed
  have index := mem_membersOf.mpr ⟨entry.1, mem_entries.mp inside, parent⟩
  obtain ⟨best, inBest, chosen, _⟩ := parentAnchor_spec (ne_nil_of_mem index)
  rw [entry_members member]
  exact ⟨best, inBest, chosen⟩

section

variable (length : values.length = samples.length)
include length

private theorem parentGroups_inRange :
    ∀ group ∈ (parentGroups samples).entries, ∀ index ∈ group.2, index < values.length := by
  intro group member index inside
  rw [entry_members member] at inside
  obtain ⟨sample, found, _⟩ := mem_membersOf.mp inside
  rw [length]
  exact (List.getElem_of_getElem? found).1

theorem broadcast_segment {index anchor : Nat} {sample : Sample K} {trajectory : String}
    (found : samples[index]? = some sample) (keyed : sample.liveParent = some trajectory)
    (chosen : parentAnchor samples trajectory = some anchor) :
    (broadcastToSegments samples values)[index]? = values[anchor]? :=
  (foldl_broadcastTo (parentGroups samples).entries values parentGroups_separate
    parentGroups_anchored (parentGroups_inRange length)).1 _ (members_entry found keyed) index
    (mem_membersOf.mpr ⟨sample, found, keyed⟩) anchor chosen

theorem broadcast_other {index : Nat} {sample : Sample K} (found : samples[index]? = some sample)
    (alone : sample.liveParent = none) :
    (broadcastToSegments samples values)[index]? = values[index]? := by
  refine (foldl_broadcastTo (parentGroups samples).entries values parentGroups_separate
    parentGroups_anchored (parentGroups_inRange length)).2 index ?_
  intro group member inside
  rw [entry_members member] at inside
  obtain ⟨other, foundOther, keyed⟩ := mem_membersOf.mp inside
  rw [found, some_inj] at foundOther
  rw [← foundOther, alone] at keyed
  cases keyed

end

end Broadcast

def groupMembers (group : Int) (samples : List (Sample K)) : List (Sample K × Nat) :=
  samples.zipIdx.filter (fun entry => representative samples entry ∧ entry.1.group = group)

private theorem ofKey_group (group : Int) (samples : List (Sample K)) :
    ofKey (groupEntered samples) group samples.zipIdx = groupMembers group samples := by
  unfold ofKey groupMembers groupEntered
  refine filter_congr ?_
  intro entry _member
  cases representative samples entry with
  | false => simp
  | true => simp

variable [Field K]

def rawOf (args : Args K) (sample : Sample K) : K := (rawReward args sample).getD 0

theorem mapM_rawReward (ran : samples.mapM (rawReward args) = some rawRewards) :
    rawRewards = samples.map (rawOf args) := by
  induction samples generalizing rawRewards with
  | nil =>
    simp only [mapM_nil, Option.pure_def, some_inj] at ran
    rw [← ran]
    rfl
  | cons sample rest ih =>
    rw [mapM_cons] at ran
    obtain ⟨first, read, ran⟩ := bind_eq_some_iff.mp ran
    obtain ⟨others, readOthers, ran⟩ := bind_eq_some_iff.mp ran
    simp only [Option.pure_def, some_inj] at ran
    rw [← ran, map_cons, ← ih readOthers, rawOf, read, getD_some]

def groupValues (args : Args K) (group : Int) (samples : List (Sample K)) : List K :=
  (groupMembers group samples).map (fun entry => rawOf args entry.1)

private theorem rewardGroups_members {members : Int × List (Nat × K)}
    (member : members ∈ (rewardGroups samples (samples.map (rawOf args))).entries) :
    members.2 =
      (groupMembers members.1 samples).map (fun entry => (entry.2, rawOf args entry.1)) := by
  rw [bucket_eq member, ofKey_group]
  refine map_congr_left ?_
  rintro ⟨sample, index⟩ inside
  have found := mem_entries.mp (mem_of_mem_filter inside)
  simp [getElem?_map, found]

variable [LinearOrder K]

def normalizedUpdates (args : Args K) (samples : List (Sample K)) : List (Nat × K) :=
  (rewardGroups samples (samples.map (rawOf args))).entries.flatMap
    (fun members => normalizeGroup args members.2)

private theorem normalizeRewards_eq (args : Args K) (samples : List (Sample K)) :
    normalizeRewards args samples (samples.map (rawOf args)) =
      writeAll (samples.map (rawOf args)) (normalizedUpdates args samples) := by
  unfold normalizeRewards normalizedUpdates writeAll
  rw [foldl_flatMap]

private theorem normalizeGroup_members {members : Int × List (Nat × K)}
    (member : members ∈ (rewardGroups samples (samples.map (rawOf args))).entries) :
    normalizeGroup args members.2 =
      (groupMembers members.1 samples).map (fun entry =>
        (entry.2, normalizedIn args (groupValues args members.1 samples) (rawOf args entry.1))) := by
  unfold normalizeGroup groupValues
  rw [rewardGroups_members member]
  simp only [List.map_map, Function.comp_def]

private theorem normalizedUpdates_distinct (args : Args K) (samples : List (Sample K)) :
    ((normalizedUpdates args samples).map Prod.fst).Nodup := by
  unfold normalizedUpdates
  rw [map_flatMap, nodup_flatMap]
  refine ⟨?_, ?_⟩
  · intro members member
    rw [normalizeGroup_members member, List.map_map]
    have indices : (samples.zipIdx.map Prod.snd).Nodup := by
      rw [zipIdx_map_snd]
      exact nodup_range'
    exact indices.sublist (List.Sublist.map Prod.snd filter_sublist)
  · have distinct := (rewardGroups samples (samples.map (rawOf args))).distinct
    rw [List.Nodup, pairwise_map] at distinct
    refine List.Pairwise.imp_of_mem ?_ distinct
    intro first second inFirst inSecond different index memberFirst memberSecond
    change index ∈ (normalizeGroup args first.2).map Prod.fst at memberFirst
    change index ∈ (normalizeGroup args second.2).map Prod.fst at memberSecond
    rw [normalizeGroup_members inFirst] at memberFirst
    rw [normalizeGroup_members inSecond] at memberSecond
    simp only [List.map_map, List.mem_map, Function.comp_apply] at memberFirst memberSecond
    obtain ⟨⟨sample, position⟩, inside, same⟩ := memberFirst
    obtain ⟨⟨other, positionOther⟩, insideOther, sameOther⟩ := memberSecond
    simp only at same sameOther
    subst same
    subst sameOther
    obtain ⟨entry, keyed⟩ := mem_filter.mp inside
    obtain ⟨entryOther, keyedOther⟩ := mem_filter.mp insideOther
    have found := mem_entries.mp entry
    rw [mem_entries.mp entryOther, some_inj] at found
    simp only [decide_eq_true_eq] at keyed keyedOther
    rw [found] at keyedOther
    exact different (keyed.2.symm.trans keyedOther.2)

theorem normalize_representative (found : samples[index]? = some sample)
    (enters : representative samples (sample, index) = true) :
    (normalizeRewards args samples (samples.map (rawOf args)))[index]? =
      some (normalizedIn args (groupValues args sample.group samples) (rawOf args sample)) := by
  have keyed : groupEntered samples (sample, index) = some sample.group := by
    simp [groupEntered, enters]
  have bucket := @bucket_of_item _ (Nat × K) _ _ (groupEntered samples)
    (fun entry => (entry.2, ((samples.map (rawOf args))[entry.2]?).getD 0)) _ _ _
    (mem_entries.mpr found) keyed
  have inGroup : (sample, index) ∈ groupMembers sample.group samples :=
    mem_filter.mpr ⟨mem_entries.mpr found, by simp [enters]⟩
  have update : (index, normalizedIn args (groupValues args sample.group samples)
      (rawOf args sample)) ∈ normalizedUpdates args samples := by
    refine mem_flatMap.mpr ⟨_, bucket, ?_⟩
    rw [normalizeGroup_members bucket]
    exact List.mem_map.mpr ⟨(sample, index), inGroup, rfl⟩
  have inRange : index < (samples.map (rawOf args)).length := by
    rw [length_map]
    exact (List.getElem_of_getElem? found).1
  rw [normalizeRewards_eq]
  exact writeAll_written (normalizedUpdates_distinct args samples) update inRange

theorem normalize_other (found : samples[index]? = some sample)
    (stays : representative samples (sample, index) = false) :
    (normalizeRewards args samples (samples.map (rawOf args)))[index]? =
      some (rawOf args sample) := by
  have unwritten : index ∉ (normalizedUpdates args samples).map Prod.fst := by
    intro written
    obtain ⟨⟨position, reward⟩, update, same⟩ := List.mem_map.mp written
    simp only at same
    subst same
    obtain ⟨members, member, inside⟩ := mem_flatMap.mp update
    rw [normalizeGroup_members member] at inside
    obtain ⟨⟨other, positionOther⟩, inGroup, same⟩ := List.mem_map.mp inside
    simp only [Prod.mk.injEq] at same
    obtain ⟨samePosition, _⟩ := same
    subst samePosition
    obtain ⟨entry, keyed⟩ := mem_filter.mp inGroup
    have foundOther := mem_entries.mp entry
    rw [found, some_inj] at foundOther
    simp only [decide_eq_true_eq] at keyed
    rw [← foundOther, stays] at keyed
    cases keyed.1
  rw [normalizeRewards_eq, writeAll_unwritten unwritten, getElem?_map, found]
  rfl

def processedOf (args : Args K) (samples : List (Sample K)) (anchor : Sample K) : K :=
  if subtractsMean args then
    normalizedIn args (groupValues args anchor.group samples) (rawOf args anchor)
  else rawOf args anchor

theorem rewardPostProcess_eq (ran : rewardPostProcess args samples = some (rawRewards, rewards)) :
    rawRewards = samples.map (rawOf args) ∧
      rewards = broadcastToSegments samples
        (if subtractsMean args then normalizeRewards args samples (samples.map (rawOf args))
        else samples.map (rawOf args)) := by
  unfold rewardPostProcess at ran
  obtain ⟨raw, read, ran⟩ := bind_eq_some_iff.mp ran
  have same := mapM_rawReward read
  subst same
  by_cases subtracts : subtractsMean args = true
  · rw [if_pos subtracts] at ran ⊢
    simp only [Option.some.injEq, Prod.mk.injEq] at ran
    exact ⟨ran.1.symm, ran.2.symm⟩
  · rw [if_neg subtracts] at ran ⊢
    simp only [Option.some.injEq, Prod.mk.injEq] at ran
    exact ⟨ran.1.symm, ran.2.symm⟩

private theorem length_beforeBroadcast (args : Args K) (samples : List (Sample K)) :
    (if subtractsMean args then normalizeRewards args samples (samples.map (rawOf args))
      else samples.map (rawOf args)).length = samples.length := by
  by_cases subtracts : subtractsMean args = true
  · rw [if_pos subtracts, normalizeRewards_eq, length_writeAll, length_map]
  · rw [if_neg subtracts, length_map]

private theorem beforeBroadcast_representative {args : Args K} {samples : List (Sample K)}
    {sample : Sample K} {index : Nat} (found : samples[index]? = some sample)
    (enters : representative samples (sample, index) = true) :
    (if subtractsMean args then normalizeRewards args samples (samples.map (rawOf args))
      else samples.map (rawOf args))[index]? = some (processedOf args samples sample) := by
  unfold processedOf
  by_cases subtracts : subtractsMean args = true
  · rw [if_pos subtracts, if_pos subtracts, normalize_representative found enters]
  · rw [if_neg subtracts, if_neg subtracts, getElem?_map, found]
    rfl

theorem processed_live (ran : rewardPostProcess args samples = some (rawRewards, rewards))
    (found : samples[index]? = some sample) (alive : sample.live = true) :
    rewards[index]? = some (processedOf args samples (anchorOf samples sample)) := by
  rw [(rewardPostProcess_eq ran).2]
  cases keyed : sample.liveParent with
  | none =>
    rw [broadcast_other (length_beforeBroadcast args samples) found keyed]
    have enters := (representative_iff found).mpr ⟨alive, .inl keyed⟩
    have own : anchorOf samples sample = sample := by simp [anchorOf, keyed]
    rw [own]
    exact beforeBroadcast_representative found enters
  | some trajectory =>
    obtain ⟨position, anchor, chosen, foundAnchor, same, isAnchor⟩ := anchor_exists found keyed
    obtain ⟨_, keyedAnchor⟩ := mem_segmentsOf.mp isAnchor.member
    have enters := (representative_iff foundAnchor).mpr
      ⟨(liveParent_eq_some.mp keyedAnchor).1, .inr ⟨trajectory, keyedAnchor, chosen⟩⟩
    rw [broadcast_segment (length_beforeBroadcast args samples) found keyed chosen, same]
    exact beforeBroadcast_representative foundAnchor enters

theorem processed_removed (ran : rewardPostProcess args samples = some (rawRewards, rewards))
    (found : samples[index]? = some sample) (removed : sample.removeSample = true) :
    rewards[index]? = some (rawOf args sample) := by
  have alone : sample.liveParent = none := by simp [Sample.liveParent, removed]
  have stays : representative samples (sample, index) = false := by
    simp [representative, Sample.live, removed]
  rw [(rewardPostProcess_eq ran).2,
    broadcast_other (length_beforeBroadcast args samples) found alone]
  by_cases subtracts : subtractsMean args = true
  · rw [if_pos subtracts, normalize_other found stays]
  · rw [if_neg subtracts, getElem?_map, found]
    rfl

end Dressage.Training

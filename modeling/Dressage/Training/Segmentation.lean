/-
Advantages do not depend on segmentation.

Two batches with the same live trajectories, each with the same anchor reward
and group, process them alike, however the trajectories are cut into segments
and in whatever order the samples stand. Within a group the processed rewards,
taken once per live trajectory, cancel. The expansion of a trajectory's segments
gives samples of such a batch.
-/

import Dressage.Training.Advantages
import Dressage.Lib.Effects
import Mathlib.Algebra.BigOperators.Ring.List
import Mathlib.Algebra.Field.Basic
import Mathlib.Algebra.Order.Ring.Rat
import Mathlib.Algebra.Order.Field.Rat
import Mathlib.Data.List.Perm.Basic
import Mathlib.Tactic.FieldSimp
import Mathlib.Tactic.Ring

namespace Dressage.Training

open Lib List Option

variable {K : Type}

/-- Segments of one trajectory, or one and the same sample on its own. -/
def SameTrajectory (first second : Sample K) : Prop :=
  first.live = true ∧ second.live = true ∧
    first.liveParent = second.liveParent ∧ (first.liveParent = none → first = second)

def loners (samples : List (Sample K)) : List (Sample K) :=
  samples.filter (fun sample => sample.live && sample.liveParent.isNone)

/-- One live segment of each live trajectory of a group. -/
structure OncePerTrajectory (samples : List (Sample K)) (group : Int) (chosen : List Nat) :
    Prop where
  distinct : chosen.Nodup
  live : ∀ index ∈ chosen, ∃ sample,
    samples[index]? = some sample ∧ sample.live = true ∧ sample.group = group
  once : ∀ index ∈ chosen, ∀ other ∈ chosen, ∀ sample second trajectory,
    samples[index]? = some sample → samples[other]? = some second →
      sample.liveParent = some trajectory → second.liveParent = some trajectory → index = other
  covers : ∀ index sample, samples[index]? = some sample → sample.live = true →
    sample.group = group → ∃ other ∈ chosen, ∃ second, samples[other]? = some second ∧
      (other = index ∨ ∃ trajectory,
        sample.liveParent = some trajectory ∧ second.liveParent = some trajectory)

def anchorIndex (samples : List (Sample K)) (index : Nat) : Nat :=
  match samples[index]?.bind Sample.liveParent with
  | none => index
  | some trajectory => (parentAnchor samples trajectory).getD index

variable {index : Nat} {samples : List (Sample K)} {trajectory : String} {second first : Sample K}
variable {args : Args K}

private theorem anchorIndex_alone {sample : Sample K} (found : samples[index]? = some sample)
    (alone : sample.liveParent = none) :
    anchorIndex samples index = index := by
  simp [anchorIndex, found, alone]

private theorem anchorIndex_segment {position : Nat} {sample : Sample K}
    (found : samples[index]? = some sample) (keyed : sample.liveParent = some trajectory)
    (chosen : parentAnchor samples trajectory = some position) :
    anchorIndex samples index = position := by
  simp [anchorIndex, found, keyed, chosen]

private theorem group_eq (same : first.groupIndex = second.groupIndex) :
    first.group = second.group := by
  rw [Sample.group, Sample.group, same]

def representatives (samples : List (Sample K)) : List (Sample K × Nat) :=
  samples.zipIdx.filter (representative samples)

def anchorEntry (samples : List (Sample K)) (trajectory : String) : Option (Sample K × Nat) :=
  (parentAnchor samples trajectory).bind
    (fun index => samples[index]?.map (fun anchor => (anchor, index)))

section Entries

variable {samples : List (Sample K)}

variable {trajectory : String}

theorem anchorEntry_spec {entry : Sample K × Nat}
    (picked : anchorEntry samples trajectory = some entry) :
    samples[entry.2]? = some entry.1 ∧ IsAnchor trajectory samples entry.1 ∧
      parentAnchor samples trajectory = some entry.2 := by
  obtain ⟨index, chosen, found⟩ := bind_eq_some_iff.mp picked
  obtain ⟨anchor, foundAnchor, same⟩ := map_eq_some_iff.mp found
  subst same
  obtain ⟨sample, foundSample, keyed⟩ := mem_membersOf.mp (parentAnchor_mem chosen)
  obtain ⟨position, other, chosenOther, foundOther, _, isAnchor⟩ := anchor_exists foundSample keyed
  rw [chosen, some_inj] at chosenOther
  rw [← chosenOther, foundAnchor, some_inj] at foundOther
  rw [← foundOther] at isAnchor
  exact ⟨foundAnchor, isAnchor, chosen⟩

theorem mem_trajectories :
    trajectory ∈ (parentGroups samples).keys ↔ segmentsOf trajectory samples ≠ [] := by
  rw [parentGroups, mem_keys_bucketBy]
  constructor
  · rintro ⟨⟨sample, index⟩, member, keyed⟩
    have found := mem_of_getElem? (mem_entries.mp member)
    exact ne_nil_of_mem (mem_segmentsOf.mpr ⟨found, keyed⟩)
  · intro nonempty
    obtain ⟨sample, member⟩ := exists_mem_of_ne_nil _ nonempty
    obtain ⟨inSamples, keyed⟩ := mem_segmentsOf.mp member
    obtain ⟨index, found⟩ := mem_iff_getElem?.mp inSamples
    exact ⟨(sample, index), mem_entries.mpr found, keyed⟩

theorem anchorEntry_exists (nonempty : segmentsOf trajectory samples ≠ []) :
    ∃ entry, anchorEntry samples trajectory = some entry := by
  obtain ⟨sample, member⟩ := exists_mem_of_ne_nil _ nonempty
  obtain ⟨inSamples, keyed⟩ := mem_segmentsOf.mp member
  obtain ⟨index, found⟩ := mem_iff_getElem?.mp inSamples
  obtain ⟨position, anchor, chosen, foundAnchor, _, _⟩ := anchor_exists found keyed
  exact ⟨(anchor, position), by simp [anchorEntry, chosen, foundAnchor]⟩

private theorem anchored_perm :
    ((representatives samples).filter (fun entry => entry.1.liveParent.isSome)).Perm
      ((parentGroups samples).keys.filterMap (anchorEntry samples)) := by
  have entries : ((representatives samples).filter
      (fun entry => entry.1.liveParent.isSome)).Nodup :=
    ((nodup_entries samples).filter _).filter _
  have anchors : ((parentGroups samples).keys.filterMap (anchorEntry samples)).Nodup := by
    refine List.Nodup.filterMap ?_ (parentGroups samples).keys_nodup
    intro first second entry isFirst isSecond
    have keyed := (mem_segmentsOf.mp (anchorEntry_spec isFirst).2.1.member).2
    have keyedSecond := (mem_segmentsOf.mp (anchorEntry_spec isSecond).2.1.member).2
    exact some_inj.mp (keyed.symm.trans keyedSecond)
  refine (perm_ext_iff_of_nodup entries anchors).mpr ?_
  rintro ⟨sample, index⟩
  constructor
  · intro member
    obtain ⟨inRepresentatives, named⟩ := mem_filter.mp member
    obtain ⟨entry, enters⟩ := mem_filter.mp inRepresentatives
    have found := mem_entries.mp entry
    obtain ⟨_, stands⟩ := (representative_iff found).mp enters
    rcases stands with alone | ⟨trajectory, keyed, chosen⟩
    · rw [alone] at named
      cases named
    · have inTrajectory := mem_segmentsOf.mpr ⟨mem_of_getElem? found, keyed⟩
      refine mem_filterMap.mpr ⟨trajectory, mem_trajectories.mpr (ne_nil_of_mem inTrajectory), ?_⟩
      simp [anchorEntry, chosen, found]
  · intro member
    obtain ⟨trajectory, _, picked⟩ := mem_filterMap.mp member
    obtain ⟨found, isAnchor, chosen⟩ := anchorEntry_spec picked
    obtain ⟨_, keyed⟩ := mem_segmentsOf.mp isAnchor.member
    have enters := (representative_iff found).mpr
      ⟨(liveParent_eq_some.mp keyed).1, .inr ⟨trajectory, keyed, chosen⟩⟩
    refine mem_filter.mpr ⟨mem_filter.mpr ⟨mem_entries.mpr found, enters⟩, ?_⟩
    simp [keyed]

private theorem map_fst_filter_entries (keep : Sample K → Bool) :
    (samples.zipIdx.filter (fun entry => keep entry.1)).map Prod.fst = samples.filter keep := by
  have all : samples.zipIdx.map Prod.fst = samples := zipIdx_map_fst 0 samples
  have swapped := List.filter_map (p := keep) (f := Prod.fst) (l := samples.zipIdx)
  rw [all] at swapped
  exact swapped.symm

private theorem lone_representatives :
    ((representatives samples).filter (fun entry => !entry.1.liveParent.isSome)).map Prod.fst =
      loners samples := by
  unfold representatives loners
  rw [List.filter_filter, ← map_fst_filter_entries]
  congr 1
  refine filter_congr ?_
  rintro ⟨sample, index⟩ member
  have found := mem_entries.mp member
  cases keyed : sample.liveParent with
  | some trajectory => simp
  | none =>
    cases alive : sample.live with
    | false => simp [representative, alive]
    | true =>
      have enters := (representative_iff found).mpr ⟨alive, .inl keyed⟩
      simp [enters]

end Entries

def outside (trajectory : String) (samples : List (Sample K)) : List (Sample K) :=
  samples.filter (fun sample => sample.live && sample.liveParent ≠ some trajectory)

private theorem segmentsOf_live (trajectory : String) (samples : List (Sample K)) :
    segmentsOf trajectory samples =
      segmentsOf trajectory (samples.filter (fun sample => sample.live)) := by
  unfold segmentsOf
  rw [List.filter_filter]
  refine filter_congr ?_
  intro sample _member
  by_cases keyed : sample.liveParent = some trajectory
  · simp [keyed, (liveParent_eq_some.mp keyed).1]
  · simp [keyed]

private theorem segmentsOf_outside {other : String} (different : other ≠ trajectory)
    (samples : List (Sample K)) :
    segmentsOf other samples = segmentsOf other (outside trajectory samples) := by
  unfold segmentsOf outside
  rw [List.filter_filter]
  refine filter_congr ?_
  intro sample _member
  by_cases keyed : sample.liveParent = some other
  · simp [keyed, (liveParent_eq_some.mp keyed).1, different]
  · simp [keyed]

private theorem IsAnchor.of_perm {before after : List (Sample K)} {anchor : Sample K}
    (same : (segmentsOf trajectory before).Perm (segmentsOf trajectory after))
    (isAnchor : IsAnchor trajectory after anchor) : IsAnchor trajectory before anchor :=
  { member := same.mem_iff.mpr isAnchor.member
    highest := fun sample member => isAnchor.highest sample (same.mem_iff.mp member) }

variable [Field K]

/-- A batch of segmented trajectories: within one, segment indices are distinct,
the group is the same and only the highest segment carries a reward. -/
structure Segmented (args : Args K) (samples : List (Sample K)) : Prop where
  distinct_segments : ∀ trajectory, ((segmentsOf trajectory samples).map Sample.segment).Nodup
  one_group : ∀ trajectory, ∀ first ∈ segmentsOf trajectory samples,
    ∀ second ∈ segmentsOf trajectory samples, first.groupIndex = second.groupIndex
  sparse : ∀ trajectory, ∀ lower ∈ segmentsOf trajectory samples,
    ∀ higher ∈ segmentsOf trajectory samples,
      lower.segment < higher.segment → rawReward args lower = some 0

section Expansion

variable {Segment : Type} (segmentIndex : Segment → Int)
variable (write : Sample K → Segment → Except String (Sample K)) (template : Sample K)
variable (sessionId : Option String)

def expandSorted : List Segment → Except String (List (Sample K))
  | [] => .ok []
  | segment :: rest => do
    let sample ← write { template with rolloutId := template.index } segment
    let others ← expandSorted rest
    .ok
      ({ sample with
         parentTrajId := sessionId
         segmentIndex := some (segmentIndex segment)
         reward := if rest.isEmpty then sample.reward else .value 0 } :: others)

/-- `write` is `write_sample_from_segment`. -/
def expandSegmentsToSamples (segments : List Segment) : Except String (List (Sample K)) :=
  let sorted := segments.mergeSort (fun first second => segmentIndex first ≤ segmentIndex second)
  if segments.isEmpty then .error "expand_segments_to_samples: empty segments list"
  else if (sorted.map segmentIndex).Nodup then
    expandSorted segmentIndex write template sessionId sorted
  else .error s!"duplicate segment_index in segments: {sorted.map segmentIndex}"

variable {segmentIndex write template sessionId} {samples : List (Sample K)}
variable (keeps : ∀ sample segment written, write sample segment = .ok written →
  written.groupIndex = sample.groupIndex)
include keeps

theorem expandSorted_spec {segments : List Segment}
    (ordered : (segments.map segmentIndex).Pairwise (· < ·))
    (expanded : expandSorted segmentIndex write template sessionId segments = .ok samples) :
    samples.map Sample.segment = segments.map segmentIndex ∧ ∀ sample ∈ samples,
      sample.groupIndex = template.groupIndex ∧
        (sample.reward = .value 0 ∨ ∀ other ∈ samples, other.segment ≤ sample.segment) := by
  induction segments generalizing samples with
  | nil =>
    cases expanded
    exact ⟨rfl, fun _ impossible => absurd impossible not_mem_nil⟩
  | cons segment rest ih =>
    obtain ⟨written, wrote, expanded⟩ := Effect.except_bind_eq_ok.mp expanded
    obtain ⟨others, later, expanded⟩ := Effect.except_bind_eq_ok.mp expanded
    cases expanded
    rw [map_cons, pairwise_cons] at ordered
    obtain ⟨numbered, spec⟩ := ih ordered.2 later
    refine ⟨congrArg (segmentIndex segment :: ·) numbered, fun sample member => ?_⟩
    rcases mem_cons.mp member with rfl | member
    · have kept : written.groupIndex = template.groupIndex :=
        keeps { template with rolloutId := template.index } _ _ wrote
      refine ⟨kept, ?_⟩
      cases rest with
      | nil =>
        rw [map_nil, map_eq_nil_iff] at numbered
        subst numbered
        exact .inr (fun other only => le_of_eq (congrArg Sample.segment (mem_singleton.mp only)))
      | cons _ _ => exact .inl rfl
    · refine ⟨(spec sample member).1,
        (spec sample member).2.imp_right (fun highest other among => ?_)⟩
      rcases mem_cons.mp among with rfl | among
      · exact le_of_lt (ordered.1 _ (numbered ▸ mem_map_of_mem member))
      · exact highest other among

theorem expandSegmentsToSamples_segmented (args : Args K) {segments : List Segment}
    (expanded : expandSegmentsToSamples segmentIndex write template sessionId segments =
      .ok samples) : Segmented args samples := by
  unfold expandSegmentsToSamples at expanded
  dsimp only at expanded
  split at expanded
  · cases expanded
  · split at expanded
    next distinct =>
      have sorted := @pairwise_mergeSort _
        (fun first second => decide (segmentIndex first ≤ segmentIndex second))
        (by simpa using fun _ _ _ => le_trans) (by simpa using fun _ _ => le_total _ _) segments
      have ordered := pairwise_map.mpr (sorted.imp₂ (fun _ _ below apart =>
        lt_of_le_of_ne (of_decide_eq_true below) apart) (pairwise_map.mp distinct))
      obtain ⟨numbered, spec⟩ := expandSorted_spec keeps ordered expanded
      have listed {trajectory : String} {sample : Sample K}
          (member : sample ∈ segmentsOf trajectory samples) :=
        spec sample (mem_segmentsOf.mp member).1
      constructor
      · intro trajectory
        exact (numbered ▸ distinct).sublist (filter_sublist.map _)
      · intro trajectory first isFirst second isSecond
        rw [(listed isFirst).1, (listed isSecond).1]
      · intro trajectory lower isLower higher isHigher below
        rcases (listed isLower).2 with none | highest
        · rw [rawReward, none]
        · exact absurd (highest higher (mem_segmentsOf.mp isHigher).1) (not_le.mpr below)
    next => cases expanded

end Expansion

theorem Segmented.append {args : Args K} {first second : List (Sample K)}
    (isFirst : Segmented args first) (isSecond : Segmented args second)
    (apart : ∀ trajectory, segmentsOf trajectory first = [] ∨ segmentsOf trajectory second = []) :
    Segmented args (first ++ second) := by
  have whole (trajectory : String) :
      segmentsOf trajectory (first ++ second) = segmentsOf trajectory first ∨
        segmentsOf trajectory (first ++ second) = segmentsOf trajectory second := by
    have joined : segmentsOf trajectory (first ++ second) =
        segmentsOf trajectory first ++ segmentsOf trajectory second := filter_append ..
    rcases apart trajectory with none | none
    · exact .inr (by rw [joined, none, nil_append])
    · exact .inl (by rw [joined, none, append_nil])
  constructor
  · intro trajectory
    rcases whole trajectory with same | same <;> rw [same]
    exacts [isFirst.distinct_segments trajectory, isSecond.distinct_segments trajectory]
  · intro trajectory
    rcases whole trajectory with same | same <;> rw [same]
    exacts [isFirst.one_group trajectory, isSecond.one_group trajectory]
  · intro trajectory
    rcases whole trajectory with same | same <;> rw [same]
    exacts [isFirst.sparse trajectory, isSecond.sparse trajectory]

structure SameTrajectories (args : Args K) (before after : List (Sample K)) : Prop where
  loners : (loners before).Perm (loners after)
  present : ∀ trajectory, segmentsOf trajectory before = [] ↔ segmentsOf trajectory after = []
  anchors : ∀ trajectory first second, IsAnchor trajectory before first →
    IsAnchor trajectory after second →
      rawReward args first = rawReward args second ∧ first.groupIndex = second.groupIndex

section Cancellation

variable {args : Args K} {samples : List (Sample K)} {group : Int} {chosen : List Nat}

section

variable (segmented : Segmented args samples)
include segmented

private theorem anchorIndex_member {index : Nat} {sample : Sample K}
    (found : samples[index]? = some sample) (alive : sample.live = true) :
    (anchorOf samples sample, anchorIndex samples index) ∈ groupMembers sample.group samples ∧
      (anchorOf samples sample).group = sample.group := by
  cases keyed : sample.liveParent with
  | none =>
    have own : anchorOf samples sample = sample := by simp [anchorOf, keyed]
    rw [own, anchorIndex_alone found keyed]
    have enters := (representative_iff found).mpr ⟨alive, .inl keyed⟩
    exact ⟨mem_filter.mpr ⟨mem_entries.mpr found, by simp [enters]⟩, rfl⟩
  | some trajectory =>
    obtain ⟨position, anchor, picked, foundAnchor, same, isAnchor⟩ := anchor_exists found keyed
    obtain ⟨_, keyedAnchor⟩ := mem_segmentsOf.mp isAnchor.member
    have inTrajectory := mem_segmentsOf.mpr ⟨mem_of_getElem? found, keyed⟩
    have sameGroup := group_eq
      (segmented.one_group trajectory anchor isAnchor.member sample inTrajectory)
    have enters := (representative_iff foundAnchor).mpr
      ⟨(liveParent_eq_some.mp keyedAnchor).1, .inr ⟨trajectory, keyedAnchor, picked⟩⟩
    rw [same, anchorIndex_segment found keyed picked]
    exact ⟨mem_filter.mpr ⟨mem_entries.mpr foundAnchor, by simp [enters, sameGroup]⟩, sameGroup⟩

private theorem anchorIndex_injective (once : OncePerTrajectory samples group chosen) :
    ∀ index ∈ chosen, ∀ other ∈ chosen,
      anchorIndex samples index = anchorIndex samples other → index = other := by
  intro index member other memberOther same
  obtain ⟨sample, found, alive, _⟩ := once.live index member
  obtain ⟨second, foundSecond, aliveSecond, _⟩ := once.live other memberOther
  have atAnchor := (anchorIndex_member segmented found alive).1
  have atSecond := (anchorIndex_member segmented foundSecond aliveSecond).1
  have foundAnchor := mem_entries.mp (mem_of_mem_filter atAnchor)
  have foundOther := mem_entries.mp (mem_of_mem_filter atSecond)
  rw [same, foundOther, some_inj] at foundAnchor
  cases keyed : sample.liveParent with
  | none =>
    cases keyedSecond : second.liveParent with
    | none =>
      rwa [anchorIndex_alone found keyed, anchorIndex_alone foundSecond keyedSecond] at same
    | some trajectory =>
      obtain ⟨_, anchor, _, _, sameAnchor, isAnchor⟩ := anchor_exists foundSecond keyedSecond
      have own : anchorOf samples sample = sample := by simp [anchorOf, keyed]
      rw [own, sameAnchor] at foundAnchor
      rw [← foundAnchor, (mem_segmentsOf.mp isAnchor.member).2] at keyed
      cases keyed
  | some trajectory =>
    obtain ⟨_, anchor, _, _, sameAnchor, isAnchor⟩ := anchor_exists found keyed
    have keyedAnchor := (mem_segmentsOf.mp isAnchor.member).2
    have keyedSecond : second.liveParent = some trajectory := by
      cases keyedSecond : second.liveParent with
      | none =>
        have own : anchorOf samples second = second := by simp [anchorOf, keyedSecond]
        rw [own, sameAnchor] at foundAnchor
        rw [foundAnchor, keyedAnchor] at keyedSecond
        cases keyedSecond
      | some otherTrajectory =>
        obtain ⟨_, otherAnchor, _, _, sameOther, isOther⟩ :=
          anchor_exists foundSecond keyedSecond
        rw [sameOther, sameAnchor] at foundAnchor
        rw [← (mem_segmentsOf.mp isOther.member).2, foundAnchor, keyedAnchor]
    exact once.once index member other memberOther sample second trajectory found foundSecond
      keyed keyedSecond

private theorem anchorIndices_perm (once : OncePerTrajectory samples group chosen) :
    (chosen.map (anchorIndex samples)).Perm ((groupMembers group samples).map Prod.snd) := by
  have indices : ((groupMembers group samples).map Prod.snd).Nodup := by
    have all : (samples.zipIdx.map Prod.snd).Nodup := by
      rw [zipIdx_map_snd]
      exact nodup_range'
    exact all.sublist (List.Sublist.map Prod.snd filter_sublist)
  have anchors := List.Nodup.map_on (anchorIndex_injective segmented once) once.distinct
  refine (perm_ext_iff_of_nodup anchors indices).mpr ?_
  intro position
  constructor
  · intro member
    obtain ⟨index, inChosen, same⟩ := List.mem_map.mp member
    obtain ⟨sample, found, alive, sameGroup⟩ := once.live index inChosen
    have atAnchor := (anchorIndex_member segmented found alive).1
    rw [sameGroup] at atAnchor
    rw [← same]
    exact List.mem_map_of_mem atAnchor
  · intro member
    obtain ⟨⟨anchor, place⟩, inGroup, same⟩ := List.mem_map.mp member
    simp only at same
    subst same
    obtain ⟨entry, keyed⟩ := mem_filter.mp inGroup
    simp only [decide_eq_true_eq] at keyed
    have found := mem_entries.mp entry
    obtain ⟨alive, stands⟩ := (representative_iff found).mp keyed.1
    obtain ⟨other, inChosen, second, foundSecond, related⟩ :=
      once.covers place anchor found alive keyed.2
    refine List.mem_map.mpr ⟨other, inChosen, ?_⟩
    rcases stands with alone | ⟨trajectory, keyedAnchor, picked⟩
    · rcases related with sameIndex | ⟨trajectory, keyedAnchor, _⟩
      · rw [sameIndex]
        exact anchorIndex_alone found alone
      · rw [alone] at keyedAnchor
        cases keyedAnchor
    · rcases related with sameIndex | ⟨otherTrajectory, keyedOther, keyedSecond⟩
      · rw [sameIndex]
        exact anchorIndex_segment found keyedAnchor picked
      · rw [keyedAnchor, some_inj] at keyedOther
        rw [← keyedOther] at keyedSecond
        exact anchorIndex_segment foundSecond keyedSecond picked

end

private theorem sum_map_sub_const (values : List K) (offset : K) :
    (values.map (fun value => value - offset)).sum = values.sum - values.length * offset := by
  induction values with
  | nil => simp
  | cons value rest ih =>
    rw [map_cons, sum_cons, sum_cons, ih, length_cons]
    push_cast
    ring

variable [LinearOrder K] [IsStrictOrderedRing K]

theorem sum_sub_mean (values : List K) :
    (values.map (fun value => value - mean values)).sum = 0 := by
  cases values with
  | nil => rfl
  | cons first rest =>
    have length : (((first :: rest).length : Nat) : K) ≠ 0 := by
      rw [length_cons]
      exact Nat.cast_ne_zero.mpr (Nat.succ_ne_zero _)
    rw [sum_map_sub_const, mean, mul_div_cancel₀ _ length, sub_self]

theorem sum_normalizedIn (args : Args K) (values : List K) :
    (values.map (normalizedIn args values)).sum = 0 := by
  unfold normalizedIn
  by_cases divides : usesStd args ∧ 1 / 10 ^ 6 < args.sqrt (variance values)
  · simp only [if_pos divides]
    simp only [div_eq_mul_inv]
    rw [sum_map_mul_right, sum_sub_mean, zero_mul]
  · simp only [if_neg divides]
    exact sum_sub_mean values

theorem group_rewards_cancel {rawRewards rewards : List K} (segmented : Segmented args samples)
    (ran : rewardPostProcess args samples = some (rawRewards, rewards))
    (subtracts : subtractsMean args = true) (once : OncePerTrajectory samples group chosen) :
    (chosen.map (fun index => (rewards[index]?).getD 0)).sum = 0 := by
  -- Each chosen segment carries its anchor's reward, and the anchors are the group's members.
  have read : ∀ entry ∈ groupMembers group samples,
      (rewards[entry.2]?).getD 0 =
        normalizedIn args (groupValues args group samples) (rawOf args entry.1) := by
    rintro ⟨anchor, place⟩ inGroup
    obtain ⟨entry, keyed⟩ := mem_filter.mp inGroup
    simp only [decide_eq_true_eq] at keyed
    have found := mem_entries.mp entry
    obtain ⟨alive, stands⟩ := (representative_iff found).mp keyed.1
    have own : anchorOf samples anchor = anchor := by
      rcases stands with alone | ⟨trajectory, keyedAnchor, picked⟩
      · simp [anchorOf, alone]
      · simp [anchorOf, keyedAnchor, picked, found]
    simp only
    rw [processed_live ran found alive, own, getD_some, processedOf, if_pos subtracts, keyed.2]
  have carried : ∀ index ∈ chosen,
      (rewards[index]?).getD 0 = (rewards[anchorIndex samples index]?).getD 0 := by
    intro index inChosen
    obtain ⟨sample, found, alive, sameGroup⟩ := once.live index inChosen
    obtain ⟨atAnchor, anchorGroup⟩ := anchorIndex_member segmented found alive
    rw [sameGroup] at atAnchor anchorGroup
    have atIndex := read _ atAnchor
    simp only at atIndex
    rw [atIndex, processed_live ran found alive, getD_some, processedOf, if_pos subtracts,
      anchorGroup]
  calc (chosen.map (fun index => (rewards[index]?).getD 0)).sum
      = ((chosen.map (anchorIndex samples)).map (fun index => (rewards[index]?).getD 0)).sum := by
        rw [List.map_map]
        exact congrArg List.sum (map_congr_left carried)
    _ = (((groupMembers group samples).map Prod.snd).map
        (fun index => (rewards[index]?).getD 0)).sum :=
      ((anchorIndices_perm segmented once).map _).sum_eq
    _ = ((groupValues args group samples).map
        (normalizedIn args (groupValues args group samples))).sum := by
      rw [List.map_map, groupValues, List.map_map]
      exact congrArg List.sum (map_congr_left read)
    _ = 0 := sum_normalizedIn args _

end Cancellation

theorem IsAnchor.unique (segmented : Segmented args samples)
    (isFirst : IsAnchor trajectory samples first) (isSecond : IsAnchor trajectory samples second) :
    first = second := by
  have sameSegment : first.segment = second.segment :=
    le_antisymm (isSecond.highest first isFirst.member) (isFirst.highest second isSecond.member)
  exact inj_on_of_nodup_map (segmented.distinct_segments trajectory) isFirst.member
    isSecond.member sameSegment

def contribution (args : Args K) (sample : Sample K) : Int × K :=
  (sample.group, rawOf args sample)

section Contributions

variable {args : Args K} {samples before after : List (Sample K)}

private theorem contributions_perm :
    ((representatives samples).map (fun entry => contribution args entry.1)).Perm
      (((parentGroups samples).keys.filterMap (fun trajectory =>
          (anchorEntry samples trajectory).map (fun entry => contribution args entry.1))) ++
        (loners samples).map (contribution args)) := by
  have split := (filter_append_perm (fun entry : Sample K × Nat => entry.1.liveParent.isSome)
    (representatives samples)).symm.map (fun entry => contribution args entry.1)
  rw [map_append] at split
  refine split.trans (List.Perm.append ?_ ?_)
  · have anchored := (@anchored_perm K samples).map (fun entry => contribution args entry.1)
    rwa [map_filterMap] at anchored
  · rw [← lone_representatives, List.map_map]
    exact List.Perm.refl _

theorem contributions_same (same : SameTrajectories args before after) :
    ((representatives before).map (fun entry => contribution args entry.1)).Perm
      ((representatives after).map (fun entry => contribution args entry.1)) := by
  refine contributions_perm.trans (List.Perm.trans ?_ contributions_perm.symm)
  refine List.Perm.append ?_ (same.loners.map _)
  have trajectories : (parentGroups before).keys.Perm (parentGroups after).keys := by
    refine (perm_ext_iff_of_nodup (parentGroups before).keys_nodup
      (parentGroups after).keys_nodup).mpr ?_
    intro trajectory
    rw [mem_trajectories, mem_trajectories, Ne, Ne, same.present]
  refine (List.Perm.of_eq (filterMap_congr ?_)).trans (trajectories.filterMap _)
  intro trajectory member
  have inBefore := mem_trajectories.mp member
  have inAfter : segmentsOf trajectory after ≠ [] :=
    fun empty => inBefore ((same.present trajectory).mpr empty)
  obtain ⟨first, pickedFirst⟩ := anchorEntry_exists inBefore
  obtain ⟨second, pickedSecond⟩ := anchorEntry_exists inAfter
  obtain ⟨sameReward, sameGroup⟩ := same.anchors trajectory first.1 second.1
    (anchorEntry_spec pickedFirst).2.1 (anchorEntry_spec pickedSecond).2.1
  rw [pickedFirst, pickedSecond, map_some, map_some, contribution, contribution,
    group_eq sameGroup, rawOf, rawOf, sameReward]

private theorem groupValues_eq (group : Int) :
    groupValues args group samples =
      (((representatives samples).map (fun entry => contribution args entry.1)).filter
        (fun entry => entry.1 = group)).map Prod.snd := by
  unfold groupValues groupMembers representatives contribution
  rw [List.filter_map, List.map_map, List.filter_filter]
  congr 1
  refine filter_congr ?_
  intro entry _member
  simp [Bool.and_comm]

theorem groupValues_same (same : SameTrajectories args before after) (group : Int) :
    (groupValues args group before).Perm (groupValues args group after) := by
  rw [groupValues_eq, groupValues_eq]
  exact ((contributions_same same).filter _).map _

end Contributions

section Statistics

variable {first second : List K}

private theorem mean_perm (same : first.Perm second) : mean first = mean second := by
  rw [mean, mean, same.sum_eq, same.length_eq]

private theorem variance_perm (same : first.Perm second) : variance first = variance second := by
  rw [variance, variance, mean_perm same, same.length_eq, (same.map _).sum_eq]

variable [LinearOrder K]

theorem normalizedIn_perm (args : Args K) (same : first.Perm second) :
    normalizedIn args first = normalizedIn args second := by
  funext value
  rw [normalizedIn, normalizedIn, mean_perm same, variance_perm same]

end Statistics

/-- `after` has other segments for one live trajectory, with the same anchor
reward and group. Removed samples and the order of the samples are free. -/
structure Resegments (args : Args K) (trajectory : String) (before after : List (Sample K)) :
    Prop where
  others : (outside trajectory before).Perm (outside trajectory after)
  anchors : ∃ first second, IsAnchor trajectory before first ∧ IsAnchor trajectory after second ∧
    rawReward args first = rawReward args second ∧ first.groupIndex = second.groupIndex

section Batches

variable {args : Args K} {before after : List (Sample K)}

private theorem same_anchors_of_perm {trajectory : String} (segmented : Segmented args before)
    (same : (segmentsOf trajectory before).Perm (segmentsOf trajectory after))
    {first second : Sample K} (isFirst : IsAnchor trajectory before first)
    (isSecond : IsAnchor trajectory after second) :
    rawReward args first = rawReward args second ∧ first.groupIndex = second.groupIndex := by
  rw [IsAnchor.unique segmented isFirst (isSecond.of_perm same)]
  exact ⟨rfl, rfl⟩

theorem sameTrajectories_of_perm (segmented : Segmented args before)
    (same : (before.filter (fun sample => sample.live)).Perm
      (after.filter (fun sample => sample.live))) :
    SameTrajectories args before after := by
  have segments : ∀ trajectory,
      (segmentsOf trajectory before).Perm (segmentsOf trajectory after) := by
    intro trajectory
    rw [segmentsOf_live, segmentsOf_live trajectory after]
    exact same.filter _
  constructor
  · have lone := same.filter (fun sample : Sample K => sample.liveParent.isNone)
    rw [List.filter_filter, List.filter_filter] at lone
    simpa only [loners, Bool.and_comm] using lone
  · intro trajectory
    rw [← length_eq_zero_iff, ← length_eq_zero_iff, (segments trajectory).length_eq]
  · intro trajectory first second isFirst isSecond
    exact same_anchors_of_perm segmented (segments trajectory) isFirst isSecond

theorem sameTrajectories_of_resegments {trajectory : String}
    (segmentedBefore : Segmented args before) (segmentedAfter : Segmented args after)
    (resegments : Resegments args trajectory before after) :
    SameTrajectories args before after := by
  obtain ⟨first, second, isFirst, isSecond, sameReward, sameGroup⟩ := resegments.anchors
  have segments : ∀ other, other ≠ trajectory →
      (segmentsOf other before).Perm (segmentsOf other after) := by
    intro other different
    rw [segmentsOf_outside different before, segmentsOf_outside different after]
    exact resegments.others.filter _
  constructor
  · have lone := resegments.others.filter (fun sample : Sample K => sample.liveParent.isNone)
    unfold outside at lone
    rw [List.filter_filter, List.filter_filter] at lone
    have keep : ∀ samples : List (Sample K), samples.filter (fun sample =>
        sample.liveParent.isNone && (sample.live && sample.liveParent ≠ some trajectory)) =
          loners samples := by
      intro samples
      refine filter_congr ?_
      intro sample _member
      cases keyed : sample.liveParent with
      | none => simp
      | some other => simp
    rwa [keep, keep] at lone
  · intro other
    by_cases same : other = trajectory
    · subst same
      constructor
      · intro empty
        exact absurd empty (ne_nil_of_mem isFirst.member)
      · intro empty
        exact absurd empty (ne_nil_of_mem isSecond.member)
    · rw [← length_eq_zero_iff, ← length_eq_zero_iff, (segments other same).length_eq]
  · intro other one two isOne isTwo
    by_cases same : other = trajectory
    · subst same
      rw [IsAnchor.unique segmentedBefore isOne isFirst,
        IsAnchor.unique segmentedAfter isTwo isSecond]
      exact ⟨sameReward, sameGroup⟩
    · exact same_anchors_of_perm segmentedBefore (segments other same) isOne isTwo

end Batches

def rewardsOf (trajectory : String) (samples : List (Sample K)) (rewards : List K) : List K :=
  ((samples.zip rewards).filter (fun entry => entry.1.liveParent = some trajectory)).map Prod.snd

private theorem rewardsOf_map (args : Args K) (trajectory : String) (samples : List (Sample K)) :
    rewardsOf trajectory samples (samples.map (rawOf args)) =
      (segmentsOf trajectory samples).map (rawOf args) := by
  unfold rewardsOf segmentsOf
  induction samples with
  | nil => rfl
  | cons sample rest ih =>
    by_cases keyed : sample.liveParent = some trajectory
    · simpa [keyed] using ih
    · simpa [keyed] using ih

theorem sum_segments {anchor : Sample K} (segmented : Segmented args samples)
    (isAnchor : IsAnchor trajectory samples anchor) :
    ((segmentsOf trajectory samples).map (rawOf args)).sum = rawOf args anchor := by
  have zero : ∀ sample ∈ segmentsOf trajectory samples, sample.segment ≠ anchor.segment →
      rawOf args sample = 0 := by
    intro sample member different
    have below := lt_of_le_of_ne (isAnchor.highest sample member) different
    rw [rawOf, segmented.sparse trajectory sample member anchor isAnchor.member below, getD_some]
  obtain ⟨lower, upper, split⟩ := append_of_mem isAnchor.member
  have distinct := segmented.distinct_segments trajectory
  rw [split, map_append, map_cons, nodup_append] at distinct
  obtain ⟨_, distinctUpper, apart⟩ := distinct
  have lowerZero : (lower.map (rawOf args)).sum = 0 := by
    refine sum_eq_zero ?_
    intro reward member
    obtain ⟨sample, inLower, same⟩ := List.mem_map.mp member
    rw [← same]
    refine zero sample (by rw [split]; exact mem_append_left _ inLower) ?_
    exact apart _ (List.mem_map_of_mem inLower) _ mem_cons_self
  have upperZero : (upper.map (rawOf args)).sum = 0 := by
    refine sum_eq_zero ?_
    intro reward member
    obtain ⟨sample, inUpper, same⟩ := List.mem_map.mp member
    rw [← same]
    refine zero sample (by rw [split]; exact mem_append_right _ (mem_cons_of_mem _ inUpper)) ?_
    intro sameSegment
    refine (nodup_cons.mp distinctUpper).1 ?_
    rw [← sameSegment]
    exact List.mem_map_of_mem inUpper
  rw [split, map_append, map_cons, sum_append, sum_cons, lowerZero, upperZero, zero_add, add_zero]

private theorem rawReward_read {rawRewards : List K}
    (ran : samples.mapM (rawReward args) = some rawRewards) :
    ∀ sample ∈ samples, rawReward args sample = some (rawOf args sample) := by
  induction samples generalizing rawRewards with
  | nil => simp
  | cons first rest ih =>
    rw [mapM_cons] at ran
    obtain ⟨reward, read, ran⟩ := bind_eq_some_iff.mp ran
    obtain ⟨others, readOthers, _⟩ := bind_eq_some_iff.mp ran
    intro sample member
    rcases mem_cons.mp member with atHead | inRest
    · rw [atHead, rawOf, read, getD_some]
    · exact ih readOthers sample inRest

variable [LinearOrder K]

theorem processed_same {before after : List (Sample K)}
    {rawBefore rewardsBefore rawAfter rewardsAfter : List K}
    (ranBefore : rewardPostProcess args before = some (rawBefore, rewardsBefore))
    (ranAfter : rewardPostProcess args after = some (rawAfter, rewardsAfter))
    (same : SameTrajectories args before after) {other : Nat} (found : before[index]? = some first)
    (foundOther : after[other]? = some second) (related : SameTrajectory first second) :
    rewardsBefore[index]? = rewardsAfter[other]? := by
  obtain ⟨alive, aliveOther, sameParent, sameSample⟩ := related
  rw [processed_live ranBefore found alive, processed_live ranAfter foundOther aliveOther]
  have anchors : rawOf args (anchorOf before first) = rawOf args (anchorOf after second) ∧
      (anchorOf before first).group = (anchorOf after second).group := by
    cases keyed : first.liveParent with
    | none =>
      have own : anchorOf before first = first := by simp [anchorOf, keyed]
      have ownOther : anchorOf after second = second := by
        simp [anchorOf, ← sameParent, keyed]
      rw [own, ownOther, sameSample keyed]
      exact ⟨rfl, rfl⟩
    | some trajectory =>
      rw [keyed] at sameParent
      obtain ⟨_, anchor, _, _, isOne, isAnchor⟩ := anchor_exists found keyed
      obtain ⟨_, anchorOther, _, _, isTwo, isOther⟩ :=
        anchor_exists foundOther sameParent.symm
      obtain ⟨sameReward, sameGroup⟩ :=
        same.anchors trajectory anchor anchorOther isAnchor isOther
      rw [isOne, isTwo, rawOf, rawOf, sameReward]
      exact ⟨rfl, group_eq sameGroup⟩
  unfold processedOf
  rw [anchors.1, anchors.2, normalizedIn_perm args (groupValues_same same _)]

variable [IsStrictOrderedRing K]

/-- For every batch: the live segments of a trajectory get one processed reward,
and a removed sample keeps its own raw reward. If the batch is one of segmented
trajectories: with mean subtraction a group's processed rewards, once per live
trajectory, sum to zero; permuting the batch, changing its removed samples or
re-cutting a live trajectory changes no trajectory's processed reward; and a
trajectory's raw rewards sum to its anchor's. -/
theorem advantages_independent_of_segmentation (args : Args K) (samples : List (Sample K))
    (rawRewards rewards : List K)
    (ran : rewardPostProcess args samples = some (rawRewards, rewards)) :
    (∀ (index other : Nat) (first second : Sample K) (trajectory : String),
      samples[index]? = some first → samples[other]? = some second →
        first.liveParent = some trajectory → second.liveParent = some trajectory →
          rewards[index]? = rewards[other]?) ∧
    (∀ (index : Nat) (sample : Sample K), samples[index]? = some sample →
      sample.removeSample = true → rewards[index]? = rawReward args sample) ∧
    (Segmented args samples →
      (subtractsMean args = true → ∀ group chosen, OncePerTrajectory samples group chosen →
        (chosen.map (fun index => (rewards[index]?).getD 0)).sum = 0) ∧
      (∀ after rawAfter rewardsAfter, Segmented args after →
        rewardPostProcess args after = some (rawAfter, rewardsAfter) →
          ((samples.filter (fun sample => sample.live)).Perm
              (after.filter (fun sample => sample.live)) ∨
            ∃ trajectory, Resegments args trajectory samples after) →
            ∀ (index other : Nat) (first second : Sample K), samples[index]? = some first →
              after[other]? = some second → SameTrajectory first second →
                rewards[index]? = rewardsAfter[other]?) ∧
      ∀ trajectory anchor, IsAnchor trajectory samples anchor →
        some (rewardsOf trajectory samples rawRewards).sum = rawReward args anchor) := by
  have read : ∀ sample ∈ samples, rawReward args sample = some (rawOf args sample) := by
    obtain ⟨raw, readAll, _⟩ := bind_eq_some_iff.mp ran
    exact rawReward_read readAll
  refine ⟨?_, ?_, ?_⟩
  · intro index other first second trajectory found foundOther keyed keyedOther
    obtain ⟨position, anchor, chosen, foundAnchor, isAnchor, _⟩ := anchor_exists found keyed
    obtain ⟨place, anchorOther, chosenOther, foundPlace, isOther, _⟩ :=
      anchor_exists foundOther keyedOther
    rw [chosen, some_inj] at chosenOther
    rw [← chosenOther, foundAnchor, some_inj] at foundPlace
    rw [processed_live ran found (liveParent_eq_some.mp keyed).1,
      processed_live ran foundOther (liveParent_eq_some.mp keyedOther).1, isAnchor, isOther,
      foundPlace]
  · intro index sample found removed
    rw [processed_removed ran found removed]
    exact (read sample (mem_of_getElem? found)).symm
  · intro segmented
    refine ⟨?_, ?_, ?_⟩
    · intro subtracts group chosen once
      exact group_rewards_cancel segmented ran subtracts once
    · intro after rawAfter rewardsAfter segmentedAfter ranAfter changed index other first second
        found foundOther related
      have same : SameTrajectories args samples after := by
        rcases changed with permuted | ⟨trajectory, resegments⟩
        · exact sameTrajectories_of_perm segmented permuted
        · exact sameTrajectories_of_resegments segmented segmentedAfter resegments
      exact processed_same ran ranAfter same found foundOther related
    · intro trajectory anchor isAnchor
      rw [(rewardPostProcess_eq ran).1, rewardsOf_map, sum_segments segmented isAnchor]
      exact (read anchor (mem_segmentsOf.mp isAnchor.member).1).symm

def segmentSample (trajectory : String) (segment : Int) (reward : ℚ) : Sample ℚ :=
  { index := some 0
    reward := .value reward
    groupIndex := some 0
    removeSample := false
    parentTrajId := some trajectory
    segmentIndex := some segment
    instanceId := some "prompt"
    rolloutId := some 0
    tokens := [1, 2]
    responseLength := 1
    lossMask := none
    truncated := false }

def grpoArgs : Args ℚ :=
  { rewardKey := none
    advantageEstimator := "grpo"
    rewardsNormalization := true
    grpoStdNormalization := false
    globalBatchSize := 4
    sqrt := fun value => value }

def twoTrajectories : List (Sample ℚ) :=
  [segmentSample "first" 0 0, segmentSample "first" 1 1, segmentSample "second" 0 3]

theorem twoTrajectories_segmented : Segmented grpoArgs twoTrajectories := by
  have only : ∀ trajectory, segmentsOf trajectory twoTrajectories ≠ [] →
      trajectory = "first" ∨ trajectory = "second" := by
    intro trajectory nonempty
    by_contra neither
    rw [not_or] at neither
    refine nonempty ?_
    simp [segmentsOf, twoTrajectories, segmentSample, Sample.liveParent, Sample.parent,
      Ne.symm neither.1, Ne.symm neither.2]
  constructor
  · intro trajectory
    by_cases empty : segmentsOf trajectory twoTrajectories = []
    · rw [empty]
      exact nodup_nil
    · rcases only trajectory empty with rfl | rfl <;> decide
  · intro trajectory first isFirst
    rcases only trajectory (ne_nil_of_mem isFirst) with rfl | rfl
    · exact (by decide : ∀ first ∈ segmentsOf "first" twoTrajectories,
        ∀ second ∈ segmentsOf "first" twoTrajectories,
          first.groupIndex = second.groupIndex) first isFirst
    · exact (by decide : ∀ first ∈ segmentsOf "second" twoTrajectories,
        ∀ second ∈ segmentsOf "second" twoTrajectories,
          first.groupIndex = second.groupIndex) first isFirst
  · intro trajectory lower isLower
    rcases only trajectory (ne_nil_of_mem isLower) with rfl | rfl
    · exact (by decide : ∀ lower ∈ segmentsOf "first" twoTrajectories,
        ∀ higher ∈ segmentsOf "first" twoTrajectories, lower.segment < higher.segment →
          rawReward grpoArgs lower = some 0) lower isLower
    · exact (by decide : ∀ lower ∈ segmentsOf "second" twoTrajectories,
        ∀ higher ∈ segmentsOf "second" twoTrajectories, lower.segment < higher.segment →
          rawReward grpoArgs lower = some 0) lower isLower

theorem two_segments_one_advantage :
    rewardPostProcess grpoArgs twoTrajectories = some ([0, 1, 3], [-1, -1, 1]) ∧
      ([-1, -1, 1] : List ℚ)[0]? = ([-1, -1, 1] : List ℚ)[1]? ∧
      some (rewardsOf "first" twoTrajectories [0, 1, 3]).sum =
        rawReward grpoArgs (segmentSample "first" 1 1) := by
  have ran : rewardPostProcess grpoArgs twoTrajectories = some ([0, 1, 3], [-1, -1, 1]) := by
    decide +kernel
  have anchor : IsAnchor "first" twoTrajectories (segmentSample "first" 1 1) :=
    { member := by decide
      highest := by decide }
  have spec := advantages_independent_of_segmentation grpoArgs twoTrajectories [0, 1, 3]
    [-1, -1, 1] ran
  exact ⟨ran, spec.1 0 1 _ _ "first" rfl rfl rfl rfl,
    (spec.2.2 twoTrajectories_segmented).2.2 "first" _ anchor⟩

end Dressage.Training

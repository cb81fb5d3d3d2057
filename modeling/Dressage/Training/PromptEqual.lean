/-
Prompt-equal weighting.

With a prompt-equal estimator every prompt that has a live sample and something to train on gets
the same total weight, the global batch size over the number of live prompts.
-/

import Dressage.Training.ConvertSamples

namespace Dressage.Training

open Lib List Option

variable {K : Type}

def Sample.ofPrompt (prompt : String) (sample : Sample K) : Bool :=
  sample.live && sample.instanceId = some prompt

def livePrompts (samples : List (Sample K)) : Finset String :=
  ((samples.filter (fun sample => sample.live)).filterMap Sample.instanceId).toFinset

def promptMask (prompt : String) (samples : List (Sample K)) (lossMasks : List (List Int)) : Int :=
  (((samples.zip lossMasks).filter (fun entry => entry.1.ofPrompt prompt)).map
    (fun entry => entry.2.sum)).sum

theorem mem_livePrompts {samples : List (Sample K)} {prompt : String} :
    prompt ∈ livePrompts samples ↔ ∃ sample ∈ samples, sample.ofPrompt prompt = true := by
  simp [livePrompts, Sample.ofPrompt, and_assoc]

theorem length_of_mapM {α β : Type} {read : α → Option β} {items : List α} {values : List β}
    (ran : items.mapM read = some values) : values.length = items.length := by
  induction items generalizing values with
  | nil =>
    simp only [mapM_nil, Option.pure_def, some_inj] at ran
    rw [← ran]
    rfl
  | cons item rest ih =>
    rw [mapM_cons] at ran
    obtain ⟨value, _, ran⟩ := bind_eq_some_iff.mp ran
    obtain ⟨others, readOthers, ran⟩ := bind_eq_some_iff.mp ran
    simp only [Option.pure_def, some_inj] at ran
    rw [← ran, length_cons, ih readOthers, length_cons]

structure RecutsWithinPrompt (trajectory : String) (before after : List (Sample K)) : Prop where
  others : (outside trajectory before).Perm (outside trajectory after)
  segments_before : segmentsOf trajectory before ≠ []
  segments_after : segmentsOf trajectory after ≠ []
  one_prompt : ∃ prompt, (∀ sample ∈ segmentsOf trajectory before, sample.instanceId = some prompt) ∧
    ∀ sample ∈ segmentsOf trajectory after, sample.instanceId = some prompt

theorem livePrompts_of_perm {before after : List (Sample K)}
    (same : (before.filter (fun sample => sample.live)).Perm
      (after.filter (fun sample => sample.live))) : livePrompts before = livePrompts after :=
  toFinset_eq_of_perm _ _ (same.filterMap _)

private theorem mem_livePrompts_cut {trajectory prompt own : String} {samples : List (Sample K)}
    (nonempty : segmentsOf trajectory samples ≠ [])
    (owned : ∀ sample ∈ segmentsOf trajectory samples, sample.instanceId = some own) :
    prompt ∈ livePrompts samples ↔
      prompt = own ∨ ∃ sample ∈ outside trajectory samples, sample.instanceId = some prompt := by
  rw [mem_livePrompts]
  constructor
  · rintro ⟨sample, member, live⟩
    simp only [Sample.ofPrompt, Bool.and_eq_true, decide_eq_true_eq] at live
    by_cases keyed : sample.liveParent = some trajectory
    · have named := owned sample (mem_segmentsOf.mpr ⟨member, keyed⟩)
      rw [live.2, some_inj] at named
      exact .inl named
    · refine .inr ⟨sample, ?_, live.2⟩
      exact mem_filter.mpr ⟨member, by simp [live.1, keyed]⟩
  · rintro (same | ⟨sample, member, named⟩)
    · obtain ⟨sample, member⟩ := exists_mem_of_ne_nil _ nonempty
      obtain ⟨inSamples, keyed⟩ := mem_segmentsOf.mp member
      refine ⟨sample, inSamples, ?_⟩
      simp [Sample.ofPrompt, (liveParent_eq_some.mp keyed).1, owned sample member, same]
    · obtain ⟨inSamples, out⟩ := mem_filter.mp member
      simp only [Bool.and_eq_true] at out
      exact ⟨sample, inSamples, by simp [Sample.ofPrompt, out.1, named]⟩

theorem livePrompts_of_recut {trajectory : String} {before after : List (Sample K)}
    (recut : RecutsWithinPrompt trajectory before after) :
    livePrompts before = livePrompts after := by
  obtain ⟨own, ownedBefore, ownedAfter⟩ := recut.one_prompt
  ext prompt
  rw [mem_livePrompts_cut recut.segments_before ownedBefore,
    mem_livePrompts_cut recut.segments_after ownedAfter]
  simp only [recut.others.mem_iff]

private theorem foldlM_countPrompt {entries : List (Sample K × List Int)}
    {counts final : PromptCounts} (ran : entries.foldlM countPrompt counts = some final)
    (prompt : String) :
    final.promptTokenCounts.getD prompt 0 =
        counts.promptTokenCounts.getD prompt 0 +
          ((entries.filter (fun entry => entry.1.ofPrompt prompt)).map
            (fun entry => entry.2.sum)).sum ∧
      (prompt ∈ final.realPromptIds ↔
        prompt ∈ counts.realPromptIds ∨ ∃ entry ∈ entries, entry.1.ofPrompt prompt = true) := by
  induction entries generalizing counts with
  | nil =>
    simp only [foldlM_nil, Option.pure_def, some_inj] at ran
    subst ran
    simp
  | cons entry rest ih =>
    rw [foldlM_cons] at ran
    obtain ⟨next, counted, ran⟩ := bind_eq_some_iff.mp ran
    obtain ⟨total, prompts⟩ := ih ran
    rw [total, prompts]
    unfold countPrompt at counted
    cases traj : entry.1.parentTrajId with
    | none => simp [traj] at counted
    | some trajectory =>
      cases named : entry.1.instanceId with
      | none => simp [traj, named] at counted
      | some own =>
        simp only [traj, named] at counted
        cases removed : entry.1.removeSample with
        | true =>
          simp only [removed, if_true, some_inj] at counted
          subst counted
          simp [Sample.ofPrompt, Sample.live, removed]
        | false =>
          simp only [removed, Bool.false_eq_true, if_false] at counted
          by_cases grouped : entry.1.groupIndex = none
          · simp [grouped] at counted
          · rw [if_neg grouped, some_inj] at counted
            subst counted
            by_cases same : prompt = own
            · subst same
              simp [Sample.ofPrompt, Sample.live, removed, named, OrderedDict.getD]
              ring
            · have different : ¬ own = prompt := fun h => same h.symm
              simp [Sample.ofPrompt, Sample.live, removed, named, OrderedDict.getD,
                OrderedDict.get?_set, same, different]

section Counts

variable {samples : List (Sample K)} {lossMasks : List (List Int)} {counts : PromptCounts}

theorem counted_tokens
    (ran : (samples.zip lossMasks).foldlM countPrompt PromptCounts.empty = some counts)
    (prompt : String) :
    counts.promptTokenCounts.getD prompt 0 = promptMask prompt samples lossMasks := by
  have total := (foldlM_countPrompt ran prompt).1
  simpa [PromptCounts.empty, OrderedDict.getD, promptMask] using total

theorem counted_prompts (length : lossMasks.length = samples.length)
    (ran : (samples.zip lossMasks).foldlM countPrompt PromptCounts.empty = some counts) :
    counts.realPromptIds = livePrompts samples := by
  ext prompt
  rw [(foldlM_countPrompt ran prompt).2, mem_livePrompts]
  have all : (samples.zip lossMasks).map Prod.fst = samples :=
    map_fst_zip (Nat.le_of_eq length.symm)
  constructor
  · rintro (inEmpty | ⟨entry, member, own⟩)
    · simp [PromptCounts.empty] at inEmpty
    · refine ⟨entry.1, ?_, own⟩
      rw [← all]
      exact List.mem_map_of_mem member
  · rintro ⟨sample, member, own⟩
    rw [← all] at member
    obtain ⟨entry, inZip, same⟩ := List.mem_map.mp member
    exact .inr ⟨entry, inZip, by rw [same]; exact own⟩

end Counts

variable [Field K]

def promptShares (prompt : String) (samples : List (Sample K)) (data : TrainData K) : List K :=
  ((samples.zip (data.lossMasks.zip data.rolloutMaskSums)).filter
    (fun entry => entry.1.ofPrompt prompt)).map
      (fun entry => ((entry.2.1.sum : Int) : K) / entry.2.2)

private theorem shares_of_denominator (prompt : String) (denominator : Sample K → K)
    (samples : List (Sample K)) (lossMasks : List (List Int)) :
    ((samples.zip (lossMasks.zip (samples.map denominator))).filter
        (fun entry => entry.1.ofPrompt prompt)).map
          (fun entry => ((entry.2.1.sum : Int) : K) / entry.2.2) =
      ((samples.zip lossMasks).filter (fun entry => entry.1.ofPrompt prompt)).map
        (fun entry => ((entry.2.sum : Int) : K) / denominator entry.1) := by
  induction samples generalizing lossMasks with
  | nil => rfl
  | cons sample rest ih =>
    cases lossMasks with
    | nil => rfl
    | cons mask masks =>
      cases own : sample.ofPrompt prompt with
      | false => simpa [own] using ih masks
      | true => simpa [own] using ih masks

private theorem sum_shares (denominator : K) (entries : List (Sample K × List Int)) :
    (entries.map (fun entry => ((entry.2.sum : Int) : K) / denominator)).sum =
      (((entries.map (fun entry => entry.2.sum)).sum : Int) : K) / denominator := by
  induction entries with
  | nil => simp
  | cons entry rest ih =>
    rw [map_cons, sum_cons, map_cons, sum_cons, ih]
    push_cast
    ring

variable [LinearOrder K]

section Weights

variable {args : Args K} {samples : List (Sample K)} {data : TrainData K}

private theorem converted_counts (estimator : args.advantageEstimator ∈ promptEqualEstimators)
    (converted : convertSamplesToTrainData args samples = some data) :
    data.lossMasks.length = samples.length ∧
      ∃ counts, (samples.zip data.lossMasks).foldlM countPrompt PromptCounts.empty = some counts ∧
        data.rolloutMaskSums = samples.map (fun sample =>
          ((counts.promptTokenCounts.getD (sample.instanceId.getD "") 0 : Int) : K) *
            promptScale args counts) := by
  unfold convertSamplesToTrainData at converted
  obtain ⟨rewards, _, converted⟩ := bind_eq_some_iff.mp converted
  obtain ⟨lossMasks, masked, converted⟩ := bind_eq_some_iff.mp converted
  obtain ⟨maskSums, summed, converted⟩ := bind_eq_some_iff.mp converted
  rw [some_inj] at converted
  subst converted
  rw [rolloutMaskSums, if_pos estimator, promptEqualRolloutMaskSums] at summed
  obtain ⟨counts, counted, summed⟩ := bind_eq_some_iff.mp summed
  rw [some_inj] at summed
  exact ⟨length_of_mapM masked, counts, counted, summed.symm⟩

variable [IsStrictOrderedRing K]

theorem promptShares_sum (estimator : args.advantageEstimator ∈ promptEqualEstimators)
    (positive : 0 < args.globalBatchSize)
    (converted : convertSamplesToTrainData args samples = some data) {prompt : String}
    (live : prompt ∈ livePrompts samples)
    (trained : 0 < promptMask prompt samples data.lossMasks) :
    (promptShares prompt samples data).sum =
      (args.globalBatchSize : K) / ((livePrompts samples).card : K) := by
  obtain ⟨length, counts, counted, denominators⟩ := converted_counts estimator converted
  have prompts := counted_prompts length counted
  have some_prompt : 0 < (livePrompts samples).card := Finset.card_pos.mpr ⟨prompt, live⟩
  have scale : promptScale args counts =
      ((livePrompts samples).card : K) / (args.globalBatchSize : K) := by
    rw [promptScale, prompts, if_pos ⟨positive, some_prompt⟩]
  have shares : promptShares prompt samples data =
      ((samples.zip data.lossMasks).filter (fun entry => entry.1.ofPrompt prompt)).map
        (fun entry => ((entry.2.sum : Int) : K) /
          ((promptMask prompt samples data.lossMasks : Int) *
            (((livePrompts samples).card : K) / (args.globalBatchSize : K)))) := by
    unfold promptShares
    rw [denominators, shares_of_denominator]
    refine map_congr_left ?_
    intro entry member
    obtain ⟨_, own⟩ := mem_filter.mp member
    have named : entry.1.instanceId = some prompt := by
      simp only [Sample.ofPrompt, Bool.and_eq_true, decide_eq_true_eq] at own
      exact own.2
    rw [named, getD_some, counted_tokens counted, scale]
  have mask : ((promptMask prompt samples data.lossMasks : Int) : K) ≠ 0 :=
    Int.cast_ne_zero.mpr (ne_of_gt trained)
  have prompts_nonzero : ((livePrompts samples).card : K) ≠ 0 :=
    Nat.cast_ne_zero.mpr (ne_of_gt some_prompt)
  have batch_nonzero : (args.globalBatchSize : K) ≠ 0 :=
    Int.cast_ne_zero.mpr (ne_of_gt positive)
  rw [shares, sum_shares]
  change ((promptMask prompt samples data.lossMasks : Int) : K) / _ = _
  field_simp

/-- In every converted batch each live prompt with a positive mask weighs the
global batch size over the number of live prompts, and the weight stays when
the samples are reordered, removed samples come or go, or a trajectory is cut
into other segments. -/
theorem prompts_weigh_equally (args : Args K) (samples : List (Sample K)) (data : TrainData K)
    (estimator : args.advantageEstimator ∈ promptEqualEstimators)
    (positive : 0 < args.globalBatchSize)
    (converted : convertSamplesToTrainData args samples = some data) :
    (∀ prompt ∈ livePrompts samples, 0 < promptMask prompt samples data.lossMasks →
      (promptShares prompt samples data).sum =
        (args.globalBatchSize : K) / ((livePrompts samples).card : K)) ∧
    ∀ after dataAfter, convertSamplesToTrainData args after = some dataAfter →
      ((samples.filter (fun sample => sample.live)).Perm
          (after.filter (fun sample => sample.live)) ∨
        ∃ trajectory, RecutsWithinPrompt trajectory samples after) →
        ∀ prompt ∈ livePrompts samples, ∀ other ∈ livePrompts after,
          0 < promptMask prompt samples data.lossMasks →
            0 < promptMask other after dataAfter.lossMasks →
              (promptShares other after dataAfter).sum = (promptShares prompt samples data).sum := by
  refine ⟨fun prompt live trained => promptShares_sum estimator positive converted live trained, ?_⟩
  intro after dataAfter convertedAfter changed prompt live other liveOther trained trainedOther
  have same : livePrompts samples = livePrompts after := by
    rcases changed with permuted | ⟨trajectory, recut⟩
    · exact livePrompts_of_perm permuted
    · exact livePrompts_of_recut recut
  rw [promptShares_sum estimator positive converted live trained,
    promptShares_sum estimator positive convertedAfter liveOther trainedOther, same]

end Weights

def promptSegment (trajectory prompt : String) (group segment : Int) (mask : List Int) : Sample ℚ :=
  { segmentSample trajectory segment 1 with
    groupIndex := some group
    instanceId := some prompt
    tokens := 0 :: mask.map (fun _ => 1)
    responseLength := mask.length
    lossMask := some mask }

/-- Two prompts; the trajectory of the first one is in two segments, and then in one. -/
def twoPrompts : List (Sample ℚ) :=
  [promptSegment "first" "prompt" 0 0 [1, 1], promptSegment "first" "prompt" 0 1 [1],
    promptSegment "second" "other" 1 0 [1, 0]]

def recutPrompts : List (Sample ℚ) :=
  [promptSegment "first" "prompt" 0 0 [1, 0, 1, 1, 1], promptSegment "second" "other" 1 0 [1, 0]]

def promptsData (lossMasks : List (List Int)) (rolloutMaskSums : List ℚ) : TrainData ℚ :=
  { tokens := lossMasks.map (fun mask => 0 :: mask.map (fun _ => 1))
    responseLengths := lossMasks.map List.length
    rewards := lossMasks.map (fun _ => 0)
    rawReward := lossMasks.map (fun _ => 1)
    truncated := lossMasks.map (fun _ => 0)
    sampleIndices := lossMasks.map (fun _ => some 0)
    rolloutIds := lossMasks.map (fun _ => 0)
    lossMasks := lossMasks
    rolloutMaskSums := rolloutMaskSums }

def twoPromptsData : TrainData ℚ :=
  promptsData [[1, 1], [1], [1, 0]] [3 / 2, 3 / 2, 1 / 2]

def recutPromptsData : TrainData ℚ := promptsData [[1, 0, 1, 1, 1], [1, 0]] [2, 1 / 2]

theorem recut_prompts_within : RecutsWithinPrompt "first" twoPrompts recutPrompts :=
  { others := List.Perm.refl _
    segments_before := by decide
    segments_after := by decide
    one_prompt := ⟨"prompt", by decide, by decide⟩ }

theorem two_prompts_weigh_equally :
    convertSamplesToTrainData grpoArgs twoPrompts = some twoPromptsData ∧
      convertSamplesToTrainData grpoArgs recutPrompts = some recutPromptsData ∧
      (promptShares "prompt" twoPrompts twoPromptsData).sum = (4 : ℤ) / (2 : ℕ) ∧
      (promptShares "other" twoPrompts twoPromptsData).sum = (4 : ℤ) / (2 : ℕ) ∧
      (promptShares "prompt" recutPrompts recutPromptsData).sum =
        (promptShares "other" twoPrompts twoPromptsData).sum := by
  have converted : convertSamplesToTrainData grpoArgs twoPrompts = some twoPromptsData := by
    decide +kernel
  have recut : convertSamplesToTrainData grpoArgs recutPrompts = some recutPromptsData := by
    decide +kernel
  have weigh := prompts_weigh_equally grpoArgs twoPrompts twoPromptsData (by decide) (by decide)
    converted
  exact ⟨converted, recut, weigh.1 "prompt" (by decide) (by decide),
    weigh.1 "other" (by decide) (by decide),
    weigh.2 recutPrompts recutPromptsData recut (.inr ⟨"first", recut_prompts_within⟩) "other"
      (by decide) "prompt" (by decide) (by decide) (by decide)⟩

end Dressage.Training

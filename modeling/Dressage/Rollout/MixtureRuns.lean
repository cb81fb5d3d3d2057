/-
Runs of the mixture with float credits.

Each credit stays above minus the total weight, and all of them add up to zero; so none is above
the total weight times the number of datasets. As long as that product is below 2^53, no sum or
difference of the code is rounded, and its draws are those of the integers.
-/

import Dressage.Rollout.Mixture

namespace Dressage.Rollout.Mixture

open Lib.WholeFloats List Option

variable {Row : Type} {settings : Settings Row} {shares : List (Share Row)}
variable {source : DataSource Row Int}

def Portion.toFloat (portion : Portion Row Int) : Portion Row Float :=
  { rows := portion.rows
    weight := wholeFloat portion.weight
    current := wholeFloat portion.current
    offset := portion.offset
    epoch := portion.epoch }

def DataSource.toFloat (source : DataSource Row Int) : DataSource Row Float :=
  { mixture := source.mixture.map Portion.toFloat
    buffer := source.buffer
    sampleGroupIndex := source.sampleGroupIndex
    sampleIndex := source.sampleIndex
    picks := source.picks }

/-- What sampling exactly means for a source whose datasets have whole weights. -/
structure Exact (shares : List (Share Row)) (source : DataSource Row Float) : Prop where
  credits : ∃ credits : List Int, source.mixture.map Portion.current = credits.map wholeFloat ∧
    credits.sum = 0 ∧ ∀ (index : Nat) share, shares[index]? = some share →
      credits[index]? =
        some ((source.picks.length : Int) * share.weight -
          total shares * countOf index source.picks)
  notAhead : ∀ (index : Nat) share, shares[index]? = some share →
    total shares * countOf index source.picks < source.picks.length * share.weight + total shares
  blocks : ∀ (index : Nat) share, shares[index]? = some share → ∀ block,
    (block + 1) * total shares ≤ source.picks.length →
      countOf index ((source.picks.drop (block * total shares)).take (total shares)) = share.weight
  epochs : ∀ (index : Nat) share, shares[index]? = some share →
    InEpochs share.dataset.rows (servedFrom index source.picks)

/-- The bound under which no float of a run is rounded. -/
def Fits (shares : List (Share Row)) : Prop := shares.length * total shares < 2 ^ 53

theorem wholeFloat_zero : wholeFloat 0 = 0 := by decide +kernel

theorem foldl_toFloat (weights : List Nat) (start : Nat) (fits : start + weights.sum < 2 ^ 53) :
    (weights.map fun weight : Nat => wholeFloat weight).foldl (· + ·) (wholeFloat start) =
      wholeFloat ((start + weights.sum : Nat) : Int) := by
  induction weights generalizing start with
  | nil => rfl
  | cons weight rest ih =>
    rw [sum_cons] at fits
    have next := ih (start + weight) (by omega)
    rw [map_cons, foldl_cons, sum_cons, wholeFloat_add (by rw [SmallWhole]; omega)
      (by rw [SmallWhole]; omega) (by rw [SmallWhole]; omega), ← Nat.cast_add, next, Nat.add_assoc]

theorem credit_toFloat (mixture : List (Portion Row Int)) (index : Nat) :
    credit (mixture.map Portion.toFloat) index = wholeFloat (credit mixture index) := by
  rw [credit, credit, getElem?_map]
  cases mixture[index]? with
  | none => exact wholeFloat_zero.symm
  | some portion => rfl

theorem credit_small {mixture : List (Portion Row Int)}
    (small : ∀ portion ∈ mixture, SmallWhole portion.current) (index : Nat) :
    SmallWhole (credit mixture index) := by
  rw [credit]
  cases found : mixture[index]? with
  | none =>
    rw [map_none, getD_none, SmallWhole]
    decide
  | some portion => exact small portion (mem_of_getElem? found)

theorem datasetIndex_toFloat {mixture : List (Portion Row Int)}
    (small : ∀ portion ∈ mixture, SmallWhole portion.current) :
    datasetIndex (mixture.map Portion.toFloat) = datasetIndex mixture := by
  have same : richer (mixture.map Portion.toFloat) = richer mixture := by
    funext best index
    cases best with
    | none => rfl
    | some other =>
      simp only [richer, credit_toFloat,
        wholeFloat_lt (credit_small small other) (credit_small small index)]
  rw [datasetIndex, datasetIndex, same, length_map]

theorem renew_toFloat (index : Nat) (portion : Portion Row Int) :
    portion.toFloat.renew settings index = (portion.renew settings index).toFloat := by
  unfold Portion.renew
  by_cases usedUp : portion.rows.length ≤ portion.offset
  · rw [if_pos usedUp, if_pos (show portion.toFloat.rows.length ≤ portion.toFloat.offset from usedUp)]
    rfl
  · rw [if_neg usedUp, if_neg (show ¬ portion.toFloat.rows.length ≤ portion.toFloat.offset from usedUp)]

theorem le_of_sum_eq_zero {credits : List Int} {total credit : Int}
    (above : ∀ credit ∈ credits, -total ≤ credit) (balanced : credits.sum = 0)
    (member : credit ∈ credits) : credit ≤ ((credits.length - 1 : Nat) : Int) * total := by
  have others := card_nsmul_le_sum (credits.erase credit) (-total) fun other isOther =>
    above other (mem_of_mem_erase isOther)
  have sum := sum_erase member
  rw [length_erase_of_mem member, nsmul_eq_mul] at others
  rw [balanced] at sum
  linarith

section Bounds

variable (sound : Sound shares source)

include sound

theorem length_mixture : source.mixture.length = shares.length := by
  have := congrArg List.length sound.weights
  rwa [length_map, length_map] at this

variable {portion : Portion Row Int}

theorem credit_bounds (member : portion ∈ source.mixture) :
    -(total shares : Int) < portion.current ∧
      portion.current ≤ ((shares.length - 1 : Nat) : Int) * total shares := by
  have above : ∀ credit ∈ source.mixture.map Portion.current, -(total shares : Int) < credit := by
    intro credit isCredit
    obtain ⟨other, isOther, rfl⟩ := List.mem_map.mp isCredit
    obtain ⟨index, found⟩ := mem_iff_getElem?.mp isOther
    obtain ⟨share, isShare, _⟩ := exists_share sound.weights found
    exact (sound.fair index share other isShare found).above
  have isCredit := List.mem_map_of_mem (f := Portion.current) member
  have below := le_of_sum_eq_zero (fun credit listed => le_of_lt (above credit listed))
    sound.balanced isCredit
  rw [length_map, length_mixture sound] at below
  exact ⟨above _ isCredit, below⟩

theorem weight_bounds (member : portion ∈ source.mixture) :
    0 ≤ portion.weight ∧ portion.weight ≤ total shares := by
  have listed := List.mem_map_of_mem (f := Portion.weight) member
  rw [sound.weights] at listed
  obtain ⟨share, isShare, same⟩ := List.mem_map.mp listed
  have least := single_le_sum (l := shares.map Share.weight) (fun _ _ => Nat.zero_le _)
    share.weight (List.mem_map_of_mem isShare)
  rw [← same, total]
  omega

variable (declared : shares ≠ []) (fits : Fits shares)

include declared fits

theorem draw_small (member : portion ∈ source.mixture) :
    SmallWhole portion.weight ∧ SmallWhole portion.current ∧ SmallWhole portion.raise.current ∧
      SmallWhole (total shares : Int) := by
  obtain ⟨above, below⟩ := credit_bounds sound member
  obtain ⟨nonneg, most⟩ := weight_bounds sound member
  have some_ := length_pos_iff.mpr declared
  have product : ((shares.length - 1 : Nat) : Int) * total shares + total shares =
      ((shares.length * total shares : Nat) : Int) := by
    rw [Nat.cast_mul, Nat.cast_sub (by omega)]
    ring
  have positive : 0 ≤ ((shares.length - 1 : Nat) : Int) * total shares := by positivity
  rw [Fits] at fits
  simp only [SmallWhole, Portion.raise]
  refine ⟨?_, ?_, ?_, ?_⟩ <;> omega

theorem raise_toFloat (member : portion ∈ source.mixture) :
    portion.toFloat.raise = portion.raise.toFloat := by
  obtain ⟨weight, current, raised, _⟩ := draw_small sound declared fits member
  simp only [Portion.raise, Portion.toFloat]
  rw [wholeFloat_add current weight raised]

theorem map_raise_toFloat :
    (source.mixture.map Portion.toFloat).map Portion.raise =
      (source.mixture.map Portion.raise).map Portion.toFloat := by
  rw [List.map_map, List.map_map]
  exact map_congr_left fun portion member => raise_toFloat sound declared fits member

theorem totalWeight_toFloat :
    totalWeight (source.mixture.map Portion.toFloat) = wholeFloat (total shares) := by
  have weights : (source.mixture.map Portion.toFloat).map Portion.weight =
      (shares.map Share.weight).map fun weight : Nat => wholeFloat weight := by
    have same := congrArg (List.map wholeFloat) sound.weights
    rw [List.map_map, List.map_map] at same
    rw [List.map_map, List.map_map]
    exact same
  have some_ := length_pos_iff.mpr declared
  have small : total shares < 2 ^ 53 :=
    lt_of_le_of_lt (Nat.le_mul_of_pos_left _ some_) fits
  have sum := foldl_toFloat (shares.map Share.weight) 0 (by rwa [Nat.zero_add])
  rw [Nat.zero_add] at sum
  rw [totalWeight, weights, ← wholeFloat_zero]
  exact sum

theorem nextMixtureSample_toFloat :
    nextMixtureSample settings source.toFloat =
      (nextMixtureSample settings source).map fun drawn => (drawn.1, drawn.2.toFloat) := by
  have raised := map_raise_toFloat sound declared fits
  have small : ∀ portion ∈ source.mixture.map Portion.raise, SmallWhole portion.current := by
    intro portion member
    obtain ⟨before, isBefore, rfl⟩ := List.mem_map.mp member
    exact (draw_small sound declared fits isBefore).2.2.1
  simp only [nextMixtureSample, DataSource.toFloat, raised, datasetIndex_toFloat small,
    totalWeight_toFloat sound declared fits, totalWeight_eq sound.weights]
  obtain ⟨index, before, atIndex, chosen, positive⟩ := exists_chosen declared sound
  obtain ⟨_, _, raisedSmall, totalSmall⟩ :=
    draw_small sound declared fits (mem_of_getElem? atIndex)
  have charged : (Portion.raise before).toFloat.charge (wholeFloat (total shares)) =
      ((Portion.raise before).charge (total shares : Int)).toFloat := by
    have differenceSmall : SmallWhole (before.raise.current - total shares) := by
      rw [SmallWhole] at raisedSmall totalSmall ⊢
      omega
    simp only [Portion.charge, Portion.toFloat]
    rw [wholeFloat_sub raisedSmall totalSmall differenceSmall]
  simp only [chosen, getElem?_map, atIndex, map_some, bind_eq_bind,
    bind_some, charged, renew_toFloat]
  set renewed := ((Portion.raise before).charge (total shares : Int)).renew settings index
  change (renewed.rows[renewed.offset]?.bind _) = _
  cases renewed.rows[renewed.offset]? with
  | none => rfl
  | some sample =>
    simp only [bind_some, pure, map_some, DataSource.drawn, raised, map_set]
    rfl

end Bounds

theorem nextMixtureSamples_toFloat (settings : Settings Row) (declared : shares ≠ [])
    (fits : Fits shares) (count : Nat) (sound : Sound shares source) :
    ∃ samples last, nextMixtureSamples settings count source.toFloat =
      some (samples, last.toFloat) ∧ Sound shares last := by
  induction count generalizing source with
  | zero => exact ⟨[], source, rfl, sound⟩
  | succ count ih =>
    obtain ⟨sample, next, drawn, nextSound⟩ := nextMixtureSample_sound settings declared sound
    obtain ⟨samples, last, rest, lastSound⟩ := ih nextSound
    refine ⟨sample :: samples, last, ?_, lastSound⟩
    simp only [nextMixtureSamples, nextMixtureSample_toFloat sound declared fits, drawn, rest,
      map_some, bind_eq_bind, bind_some]
    rfl

theorem Sound.same {other : DataSource Row Int} (sound : Sound shares source)
    (mixture : other.mixture = source.mixture) (picks : other.picks = source.picks) :
    Sound shares other := by
  refine ⟨mixture ▸ sound.weights, mixture ▸ sound.balanced, ?_, ?_⟩
  · rw [mixture, picks]
    exact sound.fair
  · rw [picks]
    exact sound.whole

theorem groups_toFloat (settings : Settings Row) (bases : List Row) (source : DataSource Row Int) :
    ∃ last : DataSource Row Int, (groups settings source.toFloat bases).2 = last.toFloat ∧
      last.mixture = source.mixture ∧ last.picks = source.picks := by
  induction bases generalizing source with
  | nil => exact ⟨source, rfl, rfl, rfl⟩
  | cons base rest ih =>
    exact ih
      { source with
        sampleGroupIndex := source.sampleGroupIndex + 1
        sampleIndex := source.sampleIndex + settings.nSamplesPerPrompt }

theorem call_toFloat (settings : Settings Row) (declared : shares ≠ []) (fits : Fits shares)
    (sound : Sound shares source) (event : Call Row) :
    ∃ next : DataSource Row Int, call settings source.toFloat event = some next.toFloat ∧
      Sound shares next := by
  cases event with
  | addSamples samples =>
    exact ⟨{ source with buffer := source.buffer ++ samples }, rfl, sound.same rfl rfl⟩
  | getSamples numSamples =>
    have unbuffered : Sound shares { source with buffer := source.buffer.drop numSamples } :=
      sound.same rfl rfl
    simp only [call, getSamples, bind_eq_bind]
    split
    · exact ⟨_, rfl, unbuffered⟩
    · obtain ⟨bases, drawn, isDrawn, drawnSound⟩ := nextMixtureSamples_toFloat settings declared
        fits (numSamples - (source.toFloat.buffer.take numSamples).length) unbuffered
      obtain ⟨last, isLast, mixture, picks⟩ := groups_toFloat settings bases drawn
      refine ⟨last, ?_, drawnSound.same mixture picks⟩
      change (Option.bind (nextMixtureSamples settings _
        (DataSource.toFloat { source with buffer := source.buffer.drop numSamples })) _).map _ = _
      rw [isDrawn, ← isLast]
      rfl

theorem Sound.exact (sound : Sound shares source) : Exact shares source.toFloat := by
  have fair : ∀ (index : Nat) share, shares[index]? = some share →
      ∃ portion, source.mixture[index]? = some portion ∧
        Fair (total shares) source.picks index share portion := by
    intro index share found
    obtain ⟨portion, isPortion, _⟩ := exists_portion sound.weights found
    exact ⟨portion, isPortion, sound.fair index share portion found isPortion⟩
  constructor
  · refine ⟨source.mixture.map Portion.current, ?_, sound.balanced, ?_⟩
    · rw [DataSource.toFloat, List.map_map, List.map_map]
      rfl
    · intro index share found
      obtain ⟨portion, isPortion, isFair⟩ := fair index share found
      rw [getElem?_map, isPortion, map_some, isFair.current]
      rfl
  · intro index share found
    obtain ⟨portion, _, isFair⟩ := fair index share found
    have above := isFair.above
    rw [isFair.current] at above
    change total shares * countOf index source.picks <
      source.picks.length * share.weight + total shares
    zify
    linarith
  · intro index share found block within
    have next := Nat.add_one_mul block (total shares)
    have before := sound.whole index share found block
      (by change _ ≤ source.picks.length at within; omega)
    have after := sound.whole index share found (block + 1) within
    rw [next, take_add, countOf, countP_append] at after
    rw [countOf] at before ⊢
    change ((source.picks.drop _).take _).countP _ = _
    linarith
  · intro index share found
    obtain ⟨portion, _, isFair⟩ := fair index share found
    obtain ⟨epochs, served, whole⟩ := isFair.served
    exact ⟨epochs, _, served, whole, (take_sublist _ _).subperm.trans isFair.rows.subperm⟩

theorem initial_toFloat (mixed : settings.datasets = shares.map Share.dataset) :
    initial settings = (wholeSource shares).toFloat := by
  simp only [initial, wholeSource, newSource, DataSource.toFloat, mixed, List.map_map]
  congr 1
  refine map_congr_left fun share _ => ?_
  simp only [Function.comp_apply, newPortion, Portion.toFloat, share.whole, wholeFloat_zero]

/-- Whatever is asked of the data source, its mixture is sampled exactly: its weights are whole,
and their sum times their number is below 2^53. -/
theorem mixture_sampling_exact (settings : Settings Row) (shares : List (Share Row))
    (mixed : settings.datasets = shares.map Share.dataset) (fits : Fits shares)
    (calls : List (Call Row)) :
    ∃ source, calls.foldlM (call settings) (initial settings) = some source ∧
      Exact shares source := by
  have declared : shares ≠ [] := by
    rintro rfl
    exact settings.declared mixed
  have run : ∀ (calls : List (Call Row)) (source : DataSource Row Int), Sound shares source →
      ∃ last : DataSource Row Int,
        calls.foldlM (call settings) source.toFloat = some last.toFloat ∧ Sound shares last := by
    intro calls
    induction calls with
    | nil => exact fun source sound => ⟨source, rfl, sound⟩
    | cons event rest ih =>
      intro source sound
      obtain ⟨next, called, nextSound⟩ := call_toFloat settings declared fits sound event
      obtain ⟨last, ended, lastSound⟩ := ih next nextSound
      exact ⟨last, by rw [foldlM_cons, called]; exact ended, lastSound⟩
  obtain ⟨source, ran, sound⟩ := run calls (wholeSource shares) wholeSource_sound
  rw [initial_toFloat mixed]
  exact ⟨source.toFloat, ran, sound.exact⟩

def weighed (rows : List Nat) (filled : rows ≠ []) (weight : Nat)
    (positive : ¬ wholeFloat weight ≤ 0) : Share Nat :=
  { dataset :=
      { weight := wholeFloat weight
        rows := rows
        positive := positive
        filled := filled }
    weight := weight
    whole := rfl }

def reversing (shares : List (Share Nat)) (declared : shares.map Share.dataset ≠ []) :
    Settings Nat :=
  { datasets := shares.map Share.dataset
    declared := declared
    rolloutShuffle := true
    rolloutSeed := 42
    shuffled := fun _ rows => rows.reverse
    shuffledPerm := fun _ rows => reverse_perm rows
    nSamplesPerPrompt := 2
    deterministicInference := true
    isBlackbox := fun row => row % 2 == 0 }

def threeToOne : List (Share Nat) :=
  [weighed [10, 11] (by decide) 3 (by decide +kernel), weighed [20] (by decide) 1 (by decide +kernel)]

theorem three_to_one_sampled :
    ∃ source, [Call.getSamples 3, .addSamples [[]], .getSamples 4].foldlM
      (call (reversing threeToOne (by decide))) (initial (reversing threeToOne (by decide))) =
        some source ∧ Exact threeToOne source :=
  mixture_sampling_exact (reversing threeToOne (by decide)) threeToOne rfl (by
    rw [Fits]
    decide) _

/-- With the second weight lost in the total, the first dataset is charged one too little. -/
def hugeToOne : List (Share Nat) :=
  [weighed [10, 11] (by decide) (2 ^ 53) (by decide +kernel),
    weighed [20] (by decide) 1 (by decide +kernel)]

theorem huge_weight_unbalanced :
    ([Call.getSamples 1].foldlM (call (reversing hugeToOne (by decide)))
        (initial (reversing hugeToOne (by decide)))).map
          (fun source => source.mixture.map Portion.current) = some [0, 1] ∧
      ¬ ∃ source, [Call.getSamples 1].foldlM (call (reversing hugeToOne (by decide)))
        (initial (reversing hugeToOne (by decide))) = some source ∧ Exact hugeToOne source := by
  have ran : ([Call.getSamples 1].foldlM (call (reversing hugeToOne (by decide)))
    (initial (reversing hugeToOne (by decide)))).map
      (fun source => (source.mixture.map Portion.current, source.picks)) =
        some ([0, 1], [(0, 10)]) := by decide +kernel
  refine ⟨by decide +kernel, ?_⟩
  rintro ⟨source, isSource, exact_⟩
  rw [isSource, map_some, some_inj, Prod.mk.injEq] at ran
  obtain ⟨credits, shown, _, owed⟩ := exact_.credits
  have first := owed 0 _ rfl
  rw [ran.2] at first
  rw [ran.1] at shown
  cases credits with
  | nil => cases first
  | cons credit rest =>
    rw [getElem?_cons_zero, some_inj] at first
    rw [map_cons, List.cons.injEq, first] at shown
    exact absurd shown.1 (by decide +kernel)

end Dressage.Rollout.Mixture

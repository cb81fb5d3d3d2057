/-
The data source and its weighted mixture of datasets.

Each draw raises every dataset's credit by its weight and charges the total weight to the
dataset with the largest credit. In the code weights and credits are floats; the draw is written
for any type of credits, and followed here with integers: whenever the number of draws is a
multiple of the total weight, every dataset has had exactly its share. A dataset is gone through
from its start to its end before it is shuffled again.
-/

import Dressage.Lib.WholeFloats
import Mathlib.Algebra.Order.BigOperators.Group.List
import Mathlib.Tactic.Linarith

namespace Dressage.Rollout.Mixture

open Lib.WholeFloats List Option

/-- A dataset of the mixture; one without samples is refused. -/
structure MopdDataset (Row : Type) where
  weight : Float
  rows : List Row
  positive : ¬ weight ≤ 0
  filled : rows ≠ []

/-- Without declared datasets there is no mixture. `shuffled` is
`random.Random(seed).shuffle`. -/
structure Settings (Row : Type) where
  datasets : List (MopdDataset Row)
  declared : datasets ≠ []
  rolloutShuffle : Bool
  rolloutSeed : Int
  shuffled : Int → List Row → List Row
  shuffledPerm : ∀ seed rows, (shuffled seed rows).Perm rows
  nSamplesPerPrompt : Nat
  deterministicInference : Bool
  isBlackbox : Row → Bool

/-- One position of `_mixture_samples`, `_mixture_weights`, `_mixture_current`,
`_mixture_offsets` and `_mixture_epochs`. -/
structure Portion (Row Credit : Type) where
  rows : List Row
  weight : Credit
  current : Credit
  offset : Nat
  epoch : Nat

structure Sample (Row : Type) where
  base : Row
  groupIndex : Nat
  index : Nat
  sessionId : Option String

/-- `picks` records which dataset was drawn from, and the row; the code does not keep it. -/
structure DataSource (Row Credit : Type) where
  mixture : List (Portion Row Credit)
  buffer : List (List (Sample Row))
  sampleGroupIndex : Nat
  sampleIndex : Nat
  picks : List (Nat × Row)

variable {Row Credit : Type}

section Draws

variable [Add Credit] [Sub Credit] [OfNat Credit 0] [LT Credit] [DecidableLT Credit]

def newPortion (rows : List Row) (weight : Credit) : Portion Row Credit :=
  { rows := rows
    weight := weight
    current := 0
    offset := 0
    epoch := 0 }

def newSource (mixture : List (Portion Row Credit)) : DataSource Row Credit :=
  { mixture := mixture
    buffer := []
    sampleGroupIndex := 0
    sampleIndex := 0
    picks := [] }

def totalWeight (mixture : List (Portion Row Credit)) : Credit :=
  (mixture.map Portion.weight).foldl (· + ·) 0

def Portion.raise (portion : Portion Row Credit) : Portion Row Credit :=
  { portion with current := portion.current + portion.weight }

def credit (mixture : List (Portion Row Credit)) (index : Nat) : Credit :=
  ((mixture[index]?).map Portion.current).getD 0

def richer (mixture : List (Portion Row Credit)) (best : Option Nat) (index : Nat) : Option Nat :=
  match best with
  | none => some index
  | some other => if credit mixture other < credit mixture index then some index else some other

/-- `max` by current credit and then by `-index`: the first one among equals. -/
def datasetIndex (mixture : List (Portion Row Credit)) : Option Nat :=
  (List.range mixture.length).foldl (richer mixture) none

def Portion.renew (settings : Settings Row) (index : Nat) (portion : Portion Row Credit) :
    Portion Row Credit :=
  if portion.rows.length ≤ portion.offset then
    { portion with
      epoch := portion.epoch + 1
      rows :=
        if settings.rolloutShuffle then
          settings.shuffled (settings.rolloutSeed + (portion.epoch + 1) * 1009 + index) portion.rows
        else portion.rows
      offset := 0 }
  else portion

def Portion.charge (total : Credit) (portion : Portion Row Credit) : Portion Row Credit :=
  { portion with current := portion.current - total }

def DataSource.drawn (source : DataSource Row Credit) (index : Nat) (portion : Portion Row Credit)
    (sample : Row) : DataSource Row Credit :=
  { source with
    mixture := (source.mixture.map Portion.raise).set index
      { portion with offset := portion.offset + 1 }
    picks := source.picks ++ [(index, sample)] }

def nextMixtureSample (settings : Settings Row) (source : DataSource Row Credit) :
    Option (Row × DataSource Row Credit) := do
  let raised := source.mixture.map Portion.raise
  let index ← datasetIndex raised
  let portion ← raised[index]?
  let renewed := (portion.charge (totalWeight source.mixture)).renew settings index
  let sample ← renewed.rows[renewed.offset]?
  return (sample, source.drawn index renewed sample)

def nextMixtureSamples (settings : Settings Row) :
    Nat → DataSource Row Credit → Option (List Row × DataSource Row Credit)
  | 0, source => some ([], source)
  | count + 1, source => do
    let (sample, next) ← nextMixtureSample settings source
    let (samples, last) ← nextMixtureSamples settings count next
    return (sample :: samples, last)

def group (settings : Settings Row) (source : DataSource Row Credit) (base : Row) :
    List (Sample Row) :=
  (List.range settings.nSamplesPerPrompt).map fun clone =>
    let index := source.sampleIndex + clone
    { base := base
      groupIndex := source.sampleGroupIndex
      index := index
      sessionId :=
        if settings.deterministicInference && settings.isBlackbox base then
          some s!"bbs-det-{settings.rolloutSeed}-{index}"
        else none }

def groups (settings : Settings Row) :
    DataSource Row Credit → List Row → List (List (Sample Row)) × DataSource Row Credit
  | source, [] => ([], source)
  | source, base :: rest =>
    let (later, last) := groups settings
      { source with
        sampleGroupIndex := source.sampleGroupIndex + 1
        sampleIndex := source.sampleIndex + settings.nSamplesPerPrompt } rest
    (group settings source base :: later, last)

def getSamples (settings : Settings Row) (numSamples : Nat) (source : DataSource Row Credit) :
    Option (List (List (Sample Row)) × DataSource Row Credit) := do
  let buffered := source.buffer.take numSamples
  let remaining := numSamples - buffered.length
  let unbuffered := { source with buffer := source.buffer.drop numSamples }
  if remaining = 0 then return (buffered, unbuffered)
  else
    let (base, drawn) ← nextMixtureSamples settings remaining unbuffered
    let (fresh, last) := groups settings drawn base
    return (buffered ++ fresh, last)

inductive Call (Row : Type) where
  | getSamples (numSamples : Nat)
  | addSamples (samples : List (List (Sample Row)))

def call (settings : Settings Row) (source : DataSource Row Credit) :
    Call Row → Option (DataSource Row Credit)
  | .getSamples numSamples => (getSamples settings numSamples source).map (·.2)
  | .addSamples samples => some { source with buffer := source.buffer ++ samples }

end Draws

def initial (settings : Settings Row) : DataSource Row Float :=
  newSource (settings.datasets.map fun dataset => newPortion dataset.rows dataset.weight)

def countOf (index : Nat) (picks : List (Nat × Row)) : Nat :=
  picks.countP (·.1 == index)

def servedFrom (index : Nat) (picks : List (Nat × Row)) : List Row :=
  (picks.filter (·.1 == index)).map (·.2)

def InEpochs (rows served : List Row) : Prop :=
  ∃ (epochs : List (List Row)) (last : List Row), served = epochs.flatten ++ last ∧
    (∀ epoch ∈ epochs, epoch.Perm rows) ∧ last.Subperm rows

/-- A dataset whose weight is a whole number. -/
structure Share (Row : Type) where
  dataset : MopdDataset Row
  weight : Nat
  whole : dataset.weight = wholeFloat weight

def total (shares : List (Share Row)) : Nat := (shares.map Share.weight).sum

def wholeSource (shares : List (Share Row)) : DataSource Row Int :=
  newSource (shares.map fun share => newPortion share.dataset.rows (share.weight : Int))

structure Fair (total : Nat) (picks : List (Nat × Row)) (index : Nat) (share : Share Row)
    (portion : Portion Row Int) : Prop where
  current : portion.current = picks.length * share.weight - total * countOf index picks
  above : -(total : Int) < portion.current
  rows : portion.rows.Perm share.dataset.rows
  served : ∃ epochs : List (List Row),
    servedFrom index picks = epochs.flatten ++ portion.rows.take portion.offset ∧
      ∀ epoch ∈ epochs, epoch.Perm share.dataset.rows

structure Sound (shares : List (Share Row)) (source : DataSource Row Int) : Prop where
  weights : source.mixture.map Portion.weight = shares.map fun share => (share.weight : Int)
  balanced : (source.mixture.map Portion.current).sum = 0
  fair : ∀ (index : Nat) share portion, shares[index]? = some share →
    source.mixture[index]? = some portion → Fair (total shares) source.picks index share portion
  whole : ∀ (index : Nat) share, shares[index]? = some share → ∀ block,
    block * total shares ≤ source.picks.length →
      countOf index (source.picks.take (block * total shares)) = block * share.weight

variable {settings : Settings Row} {shares : List (Share Row)} {source : DataSource Row Int}

theorem Share.positive (share : Share Row) : 0 < share.weight := by
  by_contra none
  have weightless := share.dataset.positive
  rw [share.whole, Nat.eq_zero_of_not_pos none] at weightless
  exact weightless (by decide +kernel)

theorem total_pos (declared : shares ≠ []) : 0 < total shares := by
  obtain ⟨first, rest, rfl⟩ := exists_cons_of_ne_nil declared
  rw [total, map_cons, sum_cons]
  have := first.positive
  omega

section Weights

variable {mixture : List (Portion Row Int)}
variable (weights : mixture.map Portion.weight = shares.map fun share => (share.weight : Int))

include weights

theorem exists_portion {index : Nat} {share : Share Row} (found : shares[index]? = some share) :
    ∃ portion, mixture[index]? = some portion ∧ portion.weight = share.weight := by
  have same := congrArg (·[index]?) weights
  simp only [getElem?_map, found, map_some] at same
  exact map_eq_some_iff.mp same

theorem exists_share {index : Nat} {portion : Portion Row Int}
    (found : mixture[index]? = some portion) :
    ∃ share, shares[index]? = some share ∧ (share.weight : Int) = portion.weight := by
  have same := congrArg (·[index]?) weights
  simp only [getElem?_map, found, map_some] at same
  exact map_eq_some_iff.mp same.symm

theorem totalWeight_eq : totalWeight mixture = total shares := by
  rw [totalWeight, weights, ← sum_eq_foldl, total]
  clear weights
  induction shares with
  | nil => rfl
  | cons first rest ih =>
    rw [map_cons, map_cons, sum_cons, sum_cons, Nat.cast_add, ih]

end Weights

theorem sum_raise (mixture : List (Portion Row Int)) :
    ((mixture.map Portion.raise).map Portion.current).sum =
      (mixture.map Portion.current).sum + totalWeight mixture := by
  rw [totalWeight, ← sum_eq_foldl]
  induction mixture with
  | nil => rfl
  | cons portion rest ih =>
    simp only [map_cons, sum_cons] at ih ⊢
    rw [ih, Portion.raise]
    ring

theorem foldl_richer (mixture : List (Portion Row Int)) (rest : List Nat) (first : Nat) :
    ∃ best, rest.foldl (richer mixture) (some first) = some best ∧ best ∈ first :: rest ∧
      ∀ index ∈ first :: rest, credit mixture index ≤ credit mixture best := by
  induction rest generalizing first with
  | nil => exact ⟨first, rfl, mem_cons_self, by simp⟩
  | cons next rest ih =>
    rw [foldl_cons, richer]
    by_cases less : credit mixture first < credit mixture next
    · obtain ⟨best, isBest, member, most⟩ := ih next
      refine ⟨best, by rw [if_pos less, isBest], mem_cons_of_mem _ member, ?_⟩
      intro index isIndex
      rcases mem_cons.mp isIndex with rfl | later
      · exact (Int.le_of_lt less).trans (most next mem_cons_self)
      · exact most index later
    · obtain ⟨best, isBest, member, most⟩ := ih first
      refine ⟨best, by rw [if_neg less, isBest], by simp_all; tauto, ?_⟩
      intro index isIndex
      have atFirst := most first mem_cons_self
      rcases mem_cons.mp isIndex with rfl | later
      · exact atFirst
      · rcases mem_cons.mp later with rfl | inRest
        · exact (Int.not_lt.mp less).trans atFirst
        · exact most index (mem_cons_of_mem _ inRest)

variable {mixture : List (Portion Row Int)} {portion before : Portion Row Int} {index : Nat}

theorem datasetIndex_spec (nonempty : mixture ≠ []) :
    ∃ index portion, datasetIndex mixture = some index ∧ mixture[index]? = some portion ∧
      ∀ other ∈ mixture, other.current ≤ portion.current := by
  have listed : List.range mixture.length = 0 :: (List.range mixture.length).tail := by
    rw [range_eq_range', tail_range', ← range'_succ]
    congr
    have := length_pos_iff.mpr nonempty
    omega
  obtain ⟨index, isBest, member, most⟩ :=
    foldl_richer mixture (List.range mixture.length).tail 0
  rw [← listed] at member most
  have bound := mem_range.mp member
  refine ⟨index, mixture[index], ?_, getElem?_eq_getElem bound, ?_⟩
  · rw [datasetIndex, listed]
    exact isBest
  · intro other isOther
    obtain ⟨position, inRange, rfl⟩ := mem_iff_getElem.mp isOther
    have least := most position (mem_range.mpr inRange)
    simpa only [credit, getElem?_eq_getElem bound, getElem?_eq_getElem inRange,
      map_some, getD_some] using least

theorem chosen_positive (declared : shares ≠ []) (sound : Sound shares source)
    (largest : ∀ other ∈ source.mixture.map Portion.raise, other.current ≤ portion.current) :
    0 < portion.current := by
  by_contra negative
  have bounded := sum_le_card_nsmul
    ((source.mixture.map Portion.raise).map Portion.current) 0 (by
      intro credit member
      obtain ⟨other, inMixture, rfl⟩ := List.mem_map.mp member
      exact le_trans (largest other inMixture) (not_lt.mp negative))
  rw [nsmul_zero, sum_raise, sound.balanced, totalWeight_eq sound.weights] at bounded
  have := total_pos declared
  omega

theorem renew_spec {index : Nat} {dataset : MopdDataset Row} {portion : Portion Row Int}
    {served : List Row} (rows : portion.rows.Perm dataset.rows)
    (inEpochs : ∃ epochs : List (List Row),
      served = epochs.flatten ++ portion.rows.take portion.offset ∧
        ∀ epoch ∈ epochs, epoch.Perm dataset.rows) :
    let renewed := portion.renew settings index
    renewed.rows.Perm dataset.rows ∧ renewed.offset < renewed.rows.length ∧
      renewed.current = portion.current ∧ renewed.weight = portion.weight ∧
      ∃ epochs : List (List Row),
        served = epochs.flatten ++ renewed.rows.take renewed.offset ∧
          ∀ epoch ∈ epochs, epoch.Perm dataset.rows := by
  obtain ⟨epochs, isServed, whole⟩ := inEpochs
  unfold Portion.renew
  split
  next usedUp =>
    have again : ∀ rows : List Row, rows.Perm dataset.rows → 0 < rows.length := by
      intro rows perm
      rw [perm.length_eq]
      exact length_pos_iff.mpr dataset.filled
    have shuffled : (if settings.rolloutShuffle then
        settings.shuffled (settings.rolloutSeed + (portion.epoch + 1) * 1009 + index) portion.rows
        else portion.rows).Perm dataset.rows := by
      split
      · exact (settings.shuffledPerm _ _).trans rows
      · exact rows
    refine ⟨shuffled, again _ shuffled, rfl, rfl, epochs ++ [portion.rows], ?_, ?_⟩
    · rw [isServed, take_of_length_le usedUp]
      simp
    · intro epoch member
      rcases mem_append.mp member with earlier | last
      · exact whole epoch earlier
      · rw [mem_singleton.mp last]
        exact rows
  next unused => exact ⟨rows, by omega, rfl, rfl, epochs, isServed, whole⟩

theorem countOf_snoc (index other : Nat) (picks : List (Nat × Row)) (row : Row) :
    countOf index (picks ++ [(other, row)]) =
      countOf index picks + if other = index then 1 else 0 := by
  simp [countOf, countP_append, countP_cons]

theorem servedFrom_snoc (index other : Nat) (picks : List (Nat × Row)) (row : Row) :
    servedFrom index (picks ++ [(other, row)]) =
      servedFrom index picks ++ if other = index then [row] else [] := by
  by_cases same : other = index
  · simp [servedFrom, same]
  · simp [servedFrom, same]

/-- Credits that are multiples of the total weight, above minus one of it, and nothing together. -/
theorem credits_settled {total : Nat} (balanced : (mixture.map Portion.current).sum = 0)
    (above : ∀ portion ∈ mixture, -(total : Int) < portion.current)
    (multiple : ∀ portion ∈ mixture, (total : Int) ∣ portion.current) :
    ∀ portion ∈ mixture, portion.current = 0 := by
  have nonneg : ∀ credit ∈ mixture.map Portion.current, 0 ≤ credit := by
    intro credit member
    obtain ⟨portion, inMixture, rfl⟩ := List.mem_map.mp member
    obtain ⟨factor, isMultiple⟩ := multiple portion inMixture
    have bound := above portion inMixture
    rw [isMultiple] at bound ⊢
    have : -1 < factor := by
      by_contra negative
      nlinarith
    exact Int.mul_nonneg (Int.natCast_nonneg total) (by omega)
  intro portion member
  exact all_zero_of_le_zero_le_of_sum_eq_zero nonneg balanced (List.mem_map_of_mem member)

theorem sum_map_set {α : Type} (value : α → Int) {items : List α} {item : α}
    (found : items[index]? = some item) (changed : α) :
    ((items.set index changed).map value).sum + value item =
      (items.map value).sum + value changed := by
  induction items generalizing index with
  | nil => cases found
  | cons first rest ih =>
    cases index with
    | zero =>
      rw [getElem?_cons_zero, some_inj] at found
      subst found
      simp only [set_cons_zero, map_cons, sum_cons]
      ring
    | succ index =>
      rw [getElem?_cons_succ] at found
      have tail := ih found
      simp only [set_cons_succ, map_cons, sum_cons]
      linarith

theorem map_weight_drawn (atIndex : source.mixture[index]? = some before)
    (weight : portion.weight = before.weight) (sample : Row) :
    (source.drawn index portion sample).mixture.map Portion.weight =
      source.mixture.map Portion.weight := by
  apply ext_getElem?
  intro position
  simp only [DataSource.drawn, getElem?_map, getElem?_set, length_map]
  by_cases here : index = position
  · subst here
    rw [if_pos rfl, if_pos (List.getElem_of_getElem? atIndex).1, atIndex, map_some, map_some]
    exact congrArg some weight
  · rw [if_neg here, Option.map_map]
    rfl

theorem drawn_fair (sound : Sound shares source) {share : Share Row} {sample : Row}
    (atIndex : source.mixture[index]? = some before) (isShare : shares[index]? = some share)
    (positive : 0 < before.raise.current)
    (credit : portion.current = before.raise.current - total shares)
    (rows : portion.rows.Perm share.dataset.rows)
    (isSample : portion.rows[portion.offset]? = some sample)
    (served : ∃ epochs : List (List Row),
      servedFrom index source.picks = epochs.flatten ++ portion.rows.take portion.offset ∧
        ∀ epoch ∈ epochs, epoch.Perm share.dataset.rows) :
    ∀ (position : Nat) other later, shares[position]? = some other →
      (source.drawn index portion sample).mixture[position]? = some later →
        Fair (total shares) (source.picks ++ [(index, sample)]) position other later := by
  intro position other later found isLater
  simp only [DataSource.drawn, getElem?_set, length_map] at isLater
  obtain ⟨old, atPosition, sameWeight⟩ := exists_portion sound.weights found
  have fair := sound.fair position other old found atPosition
  by_cases here : index = position
  · subst here
    rw [if_pos rfl, if_pos (List.getElem_of_getElem? atIndex).1, some_inj] at isLater
    rw [atIndex, some_inj] at atPosition
    rw [isShare, some_inj] at found
    subst isLater atPosition found
    have raised : before.raise.current = before.current + before.weight := rfl
    obtain ⟨epochs, isServed, whole⟩ := served
    constructor
    · rw [credit, raised, fair.current, sameWeight, countOf_snoc, if_pos rfl]
      push_cast [length_append, length_singleton]
      ring
    · simp only
      omega
    · exact rows
    · refine ⟨epochs, ?_, whole⟩
      rw [servedFrom_snoc, if_pos rfl, isServed, append_assoc, take_add_one, isSample]
      rfl
  · rw [if_neg here, getElem?_map, atPosition, map_some, some_inj] at isLater
    subst isLater
    constructor
    · rw [Portion.raise, fair.current, sameWeight, countOf_snoc, if_neg here]
      push_cast [length_append, length_singleton]
      ring
    · have := fair.above
      simp only [Portion.raise]
      omega
    · exact fair.rows
    · rw [servedFrom_snoc, if_neg here, append_nil]
      exact fair.served

theorem whole_of_fair {picks : List (Nat × Row)} {block : Nat} (declared : shares ≠ [])
    (balanced : (mixture.map Portion.current).sum = 0)
    (fair : ∀ (index : Nat) portion, mixture[index]? = some portion →
      ∃ share, shares[index]? = some share ∧ Fair (total shares) picks index share portion)
    (length : picks.length = block * total shares) :
    ∀ (index : Nat) share portion, shares[index]? = some share →
      mixture[index]? = some portion → countOf index picks = block * share.weight := by
  have settled := credits_settled balanced
    (by
      intro portion member
      obtain ⟨index, found⟩ := mem_iff_getElem?.mp member
      obtain ⟨_, _, isFair⟩ := fair index portion found
      exact isFair.above)
    (by
      intro portion member
      obtain ⟨index, found⟩ := mem_iff_getElem?.mp member
      obtain ⟨share, _, isFair⟩ := fair index portion found
      refine ⟨block * share.weight - countOf index picks, ?_⟩
      rw [isFair.current, length]
      push_cast
      ring)
  intro index share portion isShare found
  obtain ⟨_, same, isFair⟩ := fair index portion found
  rw [isShare, some_inj] at same
  subst same
  have zero := settled portion (mem_of_getElem? found)
  rw [isFair.current, length] at zero
  push_cast at zero
  have scaled : (total shares : Int) * countOf index picks =
      total shares * (block * share.weight) := by
    linarith
  have positive := total_pos declared
  exact_mod_cast mul_left_cancel₀ (by omega) scaled

theorem drawn_sound (declared : shares ≠ []) (sound : Sound shares source) {share : Share Row}
    {sample : Row} (atIndex : source.mixture[index]? = some before)
    (isShare : shares[index]? = some share) (positive : 0 < before.raise.current)
    (credit : portion.current = before.raise.current - total shares)
    (weight : portion.weight = before.weight) (rows : portion.rows.Perm share.dataset.rows)
    (isSample : portion.rows[portion.offset]? = some sample)
    (served : ∃ epochs : List (List Row),
      servedFrom index source.picks = epochs.flatten ++ portion.rows.take portion.offset ∧
        ∀ epoch ∈ epochs, epoch.Perm share.dataset.rows) :
    Sound shares (source.drawn index portion sample) := by
  have weights := (map_weight_drawn atIndex weight sample).trans sound.weights
  have fair := drawn_fair sound atIndex isShare positive credit rows isSample served
  have balanced : ((source.drawn index portion sample).mixture.map Portion.current).sum = 0 := by
    have found : (source.mixture.map Portion.raise)[index]? = some before.raise := by
      rw [getElem?_map, atIndex]
      rfl
    have sum := sum_map_set Portion.current found
      { portion with offset := portion.offset + 1 }
    rw [sum_raise, sound.balanced, totalWeight_eq sound.weights] at sum
    simp only [DataSource.drawn]
    simp only at sum
    omega
  refine ⟨weights, balanced, fair, ?_⟩
  intro position other found block within
  have length : (source.drawn index portion sample).picks.length = source.picks.length + 1 :=
    length_append
  by_cases settled : block * total shares ≤ source.picks.length
  · rw [DataSource.drawn, take_append_of_le_length settled]
    exact sound.whole position other found block settled
  · rw [take_of_length_le (by omega)]
    obtain ⟨later, isLater, _⟩ := exists_portion weights found
    refine whole_of_fair declared balanced ?_ (by omega) position other later found isLater
    intro position later found
    obtain ⟨other, isOther, _⟩ := exists_share weights found
    exact ⟨other, isOther, fair position other later isOther found⟩

theorem exists_chosen (declared : shares ≠ []) (sound : Sound shares source) :
    ∃ index before, source.mixture[index]? = some before ∧
      datasetIndex (source.mixture.map Portion.raise) = some index ∧
        0 < (Portion.raise before).current := by
  have filled : source.mixture.map Portion.raise ≠ [] := by
    intro empty
    have positive := total_pos declared
    rw [← Int.natCast_pos, ← totalWeight_eq sound.weights, totalWeight,
      map_eq_nil_iff.mp empty] at positive
    exact absurd positive (by simp)
  obtain ⟨index, raised, chosen, found, largest⟩ := datasetIndex_spec filled
  obtain ⟨before, atIndex, rfl⟩ := map_eq_some_iff.mp (getElem?_map ▸ found)
  exact ⟨index, before, atIndex, chosen, chosen_positive declared sound largest⟩

theorem nextMixtureSample_sound (settings : Settings Row) (declared : shares ≠ [])
    (sound : Sound shares source) :
    ∃ sample next, nextMixtureSample settings source = some (sample, next) ∧ Sound shares next := by
  obtain ⟨index, before, atIndex, chosen, positive⟩ := exists_chosen declared sound
  obtain ⟨share, isShare, _⟩ := exists_share sound.weights atIndex
  have fair := sound.fair index share before isShare atIndex
  obtain ⟨rows, inRows, credit, weight, served⟩ :=
    @renew_spec _ settings index share.dataset
      ((Portion.raise before).charge (totalWeight source.mixture)) _ fair.rows fair.served
  obtain ⟨sample, isSample⟩ : ∃ sample, _ = some sample := ⟨_, getElem?_eq_getElem inRows⟩
  have charged := credit.trans (congrArg ((Portion.raise before).current - ·)
    (totalWeight_eq sound.weights))
  refine ⟨sample, _, ?_, drawn_sound declared sound atIndex isShare positive charged weight rows
    isSample served⟩
  rw [nextMixtureSample]
  simp only [bind_eq_bind, chosen, getElem?_map, atIndex, map_some, bind_some, isSample]
  rfl

theorem wholeSource_sound : Sound shares (wholeSource shares) := by
  have weights : (wholeSource shares).mixture.map Portion.weight =
      shares.map fun share => (share.weight : Int) := by
    rw [wholeSource, newSource, List.map_map]
    rfl
  refine ⟨weights, ?_, ?_, ?_⟩
  · rw [wholeSource, newSource, List.map_map]
    exact sum_eq_zero (by simp [newPortion])
  · intro index share portion isShare found
    have declared := ne_nil_of_mem (mem_of_getElem? isShare)
    have positive := total_pos declared
    rw [wholeSource, newSource, getElem?_map, isShare, map_some, some_inj] at found
    subst found
    refine ⟨by simp [wholeSource, newSource, newPortion, countOf], ?_, List.Perm.refl _, [], rfl,
      by simp⟩
    simp only [newPortion]
    omega
  · intro index share isShare block within
    have declared := ne_nil_of_mem (mem_of_getElem? isShare)
    have positive := total_pos declared
    have first : block = 0 := by
      rw [Nat.le_zero.mp within |> Nat.mul_eq_zero.mp |>.resolve_right (by omega)]
    rw [first, Nat.zero_mul, Nat.zero_mul]
    rfl

end Dressage.Rollout.Mixture

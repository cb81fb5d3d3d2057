/-
Scoring every sample with its routed teacher.

The samples of one teacher are renumbered in their order, and every microbatch is cut down to
them. The values that come back are scattered to the old positions. The training model is
switched back in on every way out.
-/

import Mathlib.Data.List.Perm.Basic
import Mathlib.Data.List.Nodup
import Dressage.Lib.Effects

namespace Dressage.Training.RoutedTeachers

open Lib List
open Lib.Effect

def scorerFields : List String :=
  ["tokens", "loss_masks", "multimodal_train_inputs", "total_lengths", "response_lengths",
    "rollout_top_p_token_ids", "rollout_top_p_token_offsets"]

/-- A local batch; `column` is `get` of a field. -/
structure RolloutData (Field : Type) where
  column : String → Option (List Field)
  microBatchIndices : List (List Nat)

inductive ScoringError where
  | noTrainableMicrobatches (teacherId : String)
  | fieldLength (key : String) (found expected : Nat)
  | routeCount
  | routingReplay
  | missingKey (key : String)
  | sampleCount (teacherId : String) (found expected : Nat)
  | missingValues (positions : List Nat)
  | raised (message : String)
deriving DecidableEq

structure Settings where
  useRoutingReplay : Bool
  keepOldActor : Bool
  mopdTeacherTags : List (String × String)

/-- The base actor: switching from one model to another, and what `compute_log_prob` has
under `teacher_log_probs` for the model that is switched in. -/
structure BaseActor (Field Value : Type) where
  switchModel : String → String → Except ScoringError Unit × String
  computeLogProb : String → RolloutData Field → Except ScoringError (Option (List Value))

structure Scorer (Value : Type) where
  activeModel : String
  routedValues : List (Option Value)
  producedValues : Bool
  teacherLogProbs : Option (List (Option Value))
  activeTeacherIds : Option (List String)

variable {Field Value : Type}

def Settings.home (settings : Settings) : String :=
  if settings.keepOldActor then "old_actor" else "actor"

def selectedIndices (teacherIds : List String) (teacherId : String) : List Nat :=
  (List.range teacherIds.length).filter fun position => teacherIds[position]? = some teacherId

def checkFields (data : RolloutData Field) (sampleCount : Nat) : List String →
    Except ScoringError Unit
  | [] => .ok ()
  | key :: rest =>
    match data.column key with
    | none => checkFields data sampleCount rest
    | some values =>
      if values.length ≠ sampleCount then
        .error (.fieldLength key values.length sampleCount)
      else checkFields data sampleCount rest

def oldToNew (selected : List Nat) (index : Nat) : Option Nat :=
  if index ∈ selected then some (selected.idxOf index) else none

def compactMicrobatches (microBatchIndices : List (List Nat)) (selected : List Nat) :
    List (List Nat) :=
  (microBatchIndices.map fun microbatch => microbatch.filterMap (oldToNew selected)).filter
    fun compact => !compact.isEmpty

def subsetOf (data : RolloutData Field) (selected : List Nat) : RolloutData Field :=
  { column := fun key =>
      if key ∈ scorerFields then
        (data.column key).map fun values => selected.filterMap fun index => values[index]?
      else none
    microBatchIndices := compactMicrobatches data.microBatchIndices selected }

def buildTeacherSubset (data : RolloutData Field) (teacherIds : List String) (teacherId : String) :
    Except ScoringError (RolloutData Field × List Nat) :=
  let selected := selectedIndices teacherIds teacherId
  if compactMicrobatches data.microBatchIndices selected = [] then
    .error (.noTrainableMicrobatches teacherId)
  else do
    checkFields data teacherIds.length scorerFields
    return (subsetOf data selected, selected)

def switchModel (actor : BaseActor Field Value) (tag : String) :
    Effect (Scorer Value) ScoringError Unit := fun scorer =>
  let (result, active) := actor.switchModel tag scorer.activeModel
  (result, { scorer with activeModel := active })

def scatter (routedValues : List (Option Value)) (placed : List (Nat × Value)) :
    List (Option Value) :=
  placed.foldl (fun values entry => values.set entry.1 (some entry.2)) routedValues

def scoreTeacher (settings : Settings) (actor : BaseActor Field Value) (data : RolloutData Field)
    (teacherIds : List String) (teacherId : String) : Effect (Scorer Value) ScoringError Unit := do
  let (subset, selected) ← ofExcept (buildTeacherSubset data teacherIds teacherId)
  let tag ← ofExcept (match settings.mopdTeacherTags.lookup teacherId with
    | some tag => .ok tag
    | none => .error (.missingKey teacherId))
  switchModel actor tag
  let scorer ← Effect.get
  match ← ofExcept (actor.computeLogProb scorer.activeModel subset) with
  | none => pure ()
  | some values =>
    failIf (values.length ≠ selected.length) (.sampleCount teacherId values.length selected.length)
    Effect.modify fun scorer =>
      { scorer with
        producedValues := true
        routedValues := scatter scorer.routedValues (selected.zip values) }

def scoreAll (settings : Settings) (actor : BaseActor Field Value) (data : RolloutData Field)
    (teacherIds : List String) : List String → Effect (Scorer Value) ScoringError Unit
  | [] => pure ()
  | teacherId :: rest => do
    scoreTeacher settings actor data teacherIds teacherId
    scoreAll settings actor data teacherIds rest

def missingPositions (routedValues : List (Option Value)) : List Nat :=
  (List.range routedValues.length).filter fun index => (routedValues[index]?.join).isNone

def publishValues (teacherIds : List String) : Effect (Scorer Value) ScoringError Unit := do
  let scorer ← Effect.get
  if scorer.producedValues then
    failIf (missingPositions scorer.routedValues ≠ [])
      (.missingValues (missingPositions scorer.routedValues))
    Effect.modify fun scorer => { scorer with teacherLogProbs := some scorer.routedValues }
  Effect.modify fun scorer => { scorer with activeTeacherIds := some teacherIds }

/-- `teacherIds` is what was under `prompt`; `dict.fromkeys` keeps the first of equals. -/
def scoreRoutedTeachers (settings : Settings) (actor : BaseActor Field Value)
    (data : RolloutData Field) (teacherIds : List String) :
    Effect (Scorer Value) ScoringError Unit := do
  let tokens ← ofExcept (match data.column "tokens" with
    | some tokens => .ok tokens
    | none => .error (.missingKey "tokens"))
  failIf (teacherIds.length ≠ tokens.length) .routeCount
  failIf (settings.useRoutingReplay = true) .routingReplay
  Effect.modify fun scorer =>
    { scorer with
      routedValues := List.replicate teacherIds.length none
      producedValues := false }
  let tried ← attempt (scoreAll settings actor data teacherIds teacherIds.eraseDups)
  switchModel actor settings.home
  ofExcept tried
  publishValues teacherIds

def ListsEachOnce (microBatchIndices : List (List Nat)) (sampleCount : Nat) : Prop :=
  microBatchIndices.flatten.Perm (List.range sampleCount)

def RolloutData.row (data : RolloutData Field) (index : Nat) (key : String) : Option Field :=
  if key ∈ scorerFields then (data.column key).bind (·[index]?) else none

def ScoresInOrder (actor : BaseActor Field Value)
    (score : String → (String → Option Field) → Value) : Prop :=
  ∀ active subset sampleCount,
    (∀ values, subset.column "tokens" = some values → values.length = sampleCount) →
      subset.column "tokens" ≠ none → ListsEachOnce subset.microBatchIndices sampleCount →
        actor.computeLogProb active subset =
          .ok (some ((List.range sampleCount).map fun index => score active (subset.row index)))

structure LocalBatch (settings : Settings) (actor : BaseActor Field Value)
    (data : RolloutData Field) (teacherIds : List String) : Prop where
  tokens : data.column "tokens" ≠ none
  lengths : ∀ key ∈ scorerFields, ∀ values, data.column key = some values →
    values.length = teacherIds.length
  microbatches : ListsEachOnce data.microBatchIndices teacherIds.length
  loaded : ∀ teacherId ∈ teacherIds, ∃ tag,
    settings.mopdTeacherTags.lookup teacherId = some tag ∧
      ∀ active, actor.switchModel tag active = (.ok (), tag)

variable {settings : Settings} {actor : BaseActor Field Value} {data : RolloutData Field}
variable {teacherIds : List String} {teacherId : String}

theorem mem_selectedIndices {index : Nat} :
    index ∈ selectedIndices teacherIds teacherId ↔ teacherIds[index]? = some teacherId := by
  unfold selectedIndices
  rw [mem_filter, mem_range, decide_eq_true_eq]
  exact ⟨And.right, fun found => ⟨(List.getElem_of_getElem? found).1, found⟩⟩

theorem selectedIndices_nodup : (selectedIndices teacherIds teacherId).Nodup :=
  nodup_range.filter _

theorem map_idxOf {items : List Nat} (distinct : items.Nodup) :
    items.filterMap (oldToNew items) = List.range items.length := by
  have renumbered : items.filterMap (oldToNew items) = items.map items.idxOf := by
    rw [← filterMap_eq_map]
    apply filterMap_congr
    intro item member
    exact if_pos member
  rw [renumbered]
  apply ext_getElem
  · simp
  · intro index within _
    rw [length_map] at within
    simp [distinct.idxOf_getElem index within]

theorem lists_subset (listed : ListsEachOnce data.microBatchIndices teacherIds.length) :
    ListsEachOnce (compactMicrobatches data.microBatchIndices
      (selectedIndices teacherIds teacherId)) (selectedIndices teacherIds teacherId).length := by
  have chosen : (List.range teacherIds.length).filterMap
      (oldToNew (selectedIndices teacherIds teacherId)) =
        (selectedIndices teacherIds teacherId).filterMap
          (oldToNew (selectedIndices teacherIds teacherId)) := by
    conv_rhs => enter [2]; unfold selectedIndices
    rw [filterMap_filter]
    apply filterMap_congr
    intro index _
    by_cases isChosen : teacherIds[index]? = some teacherId
    · simp [isChosen]
    · rw [oldToNew, if_neg (fun member => isChosen (mem_selectedIndices.mp member))]
      simp [isChosen]
  unfold ListsEachOnce compactMicrobatches at *
  rw [flatten_filter_not_isEmpty, ← filterMap_flatten]
  exact (listed.filterMap _).trans (by rw [chosen, map_idxOf selectedIndices_nodup])

theorem checkFields_ok {sampleCount : Nat} (keys : List String)
    (lengths : ∀ key ∈ keys, ∀ values, data.column key = some values →
      values.length = sampleCount) : checkFields data sampleCount keys = .ok () := by
  induction keys with
  | nil => rfl
  | cons key rest ih =>
    have later := ih fun other member => lengths other (mem_cons_of_mem _ member)
    unfold checkFields
    cases found : data.column key with
    | none => exact later
    | some values =>
      simp only
      rw [if_neg (not_not.mpr (lengths key mem_cons_self values found)), later]

theorem buildTeacherSubset_ok (batch : LocalBatch settings actor data teacherIds)
    (member : teacherId ∈ teacherIds) :
    buildTeacherSubset data teacherIds teacherId =
      .ok (subsetOf data (selectedIndices teacherIds teacherId),
        selectedIndices teacherIds teacherId) := by
  unfold buildTeacherSubset
  simp only
  rw [if_neg, checkFields_ok scorerFields batch.lengths]
  · rfl
  · intro none
    obtain ⟨index, found⟩ := mem_iff_getElem?.mp member
    have listed := @lists_subset _ data teacherIds teacherId batch.microbatches
    rw [none] at listed
    have empty := nil_perm.mp listed
    rw [range_eq_nil] at empty
    have chosen := mem_selectedIndices.mpr found
    rw [eq_nil_of_length_eq_zero empty] at chosen
    cases chosen

theorem filterMap_selected {values : List Field} (length : values.length = teacherIds.length) :
    ((selectedIndices teacherIds teacherId).filterMap fun old => values[old]?).map some =
      (selectedIndices teacherIds teacherId).map fun old => values[old]? := by
  have total : ∀ old ∈ selectedIndices teacherIds teacherId, (values[old]?).isSome := by
    intro old member
    have within := (List.getElem_of_getElem? (mem_selectedIndices.mp member)).1
    rw [getElem?_eq_getElem (length ▸ within)]
    rfl
  generalize selectedIndices teacherIds teacherId = selected at *
  induction selected with
  | nil => rfl
  | cons old rest ih =>
    obtain ⟨value, isValue⟩ := Option.isSome_iff_exists.mp (total old mem_cons_self)
    rw [filterMap_cons_some isValue, map_cons, map_cons, isValue]
    rw [ih fun other member => total other (mem_cons_of_mem _ member)]

theorem row_subsetOf (batch : LocalBatch settings actor data teacherIds) {index old : Nat}
    (found : (selectedIndices teacherIds teacherId)[index]? = some old) :
    (subsetOf data (selectedIndices teacherIds teacherId)).row index = data.row old := by
  funext key
  by_cases scored : key ∈ scorerFields
  · simp only [RolloutData.row, subsetOf, if_pos scored]
    cases column : data.column key with
    | none => rfl
    | some values =>
      have kept := congrArg (·[index]?)
        (@filterMap_selected _ _ teacherId _ (batch.lengths key scored values column))
      rw [getElem?_map, getElem?_map, found, Option.map_some] at kept
      obtain ⟨value, isValue, same⟩ := Option.map_eq_some_iff.mp kept
      rw [Option.map_some, Option.bind_some, Option.bind_some, isValue, same]
  · simp only [RolloutData.row, if_neg scored]

theorem scatter_at (place : Nat → Value) (selected : List Nat) (values : List (Option Value))
    (index : Nat) :
    (scatter values (selected.map fun old => (old, place old)))[index]? =
      if index ∈ selected ∧ index < values.length then some (some (place index))
      else values[index]? := by
  unfold scatter
  induction selected generalizing values with
  | nil => simp
  | cons old rest ih =>
    rw [map_cons, foldl_cons, ih, length_set, getElem?_set]
    by_cases later : index ∈ rest
    · simp [later]
      grind
    · simp [later]
      grind

theorem zip_placed (place : Nat → Value) (selected : List Nat) :
    selected.zip (selected.map place) = selected.map fun old => (old, place old) := by
  induction selected with
  | nil => rfl
  | cons old rest ih => rw [map_cons, zip_cons_cons, ih, map_cons]

variable {score : String → (String → Option Field) → Value} {scorer : Scorer Value}

theorem switchModel_ok {tag : String}
    (switches : ∀ active, actor.switchModel tag active = (.ok (), tag)) :
    switchModel actor tag scorer = (.ok (), { scorer with activeModel := tag }) := by
  rw [switchModel, switches]

def valueOf (settings : Settings) (score : String → (String → Option Field) → Value)
    (data : RolloutData Field) (teacherId : String) (index : Nat) : Value :=
  score ((settings.mopdTeacherTags.lookup teacherId).getD "") (data.row index)

theorem scoreTeacher_ok (batch : LocalBatch settings actor data teacherIds)
    (scores : ScoresInOrder actor score) (scorer : Scorer Value)
    (member : teacherId ∈ teacherIds) :
    ∃ scored, scoreTeacher settings actor data teacherIds teacherId scorer = (.ok (), scored) ∧
      scored.producedValues = true ∧
      scored.routedValues = scatter scorer.routedValues
        ((selectedIndices teacherIds teacherId).map
          fun index => (index, valueOf settings score data teacherId index)) := by
  obtain ⟨tag, isTag, switches⟩ := batch.loaded teacherId member
  let selected := selectedIndices teacherIds teacherId
  have output : actor.computeLogProb tag (subsetOf data selected) =
      .ok (some (selected.map fun index => valueOf settings score data teacherId index)) := by
    rw [scores tag (subsetOf data selected) selected.length]
    · congr 2
      apply ext_getElem
      · simp
      · intro index within _
        rw [length_map, length_range] at within
        simp only [getElem_map, getElem_range, valueOf, isTag, Option.getD_some]
        rw [row_subsetOf batch (getElem?_eq_getElem within)]
    · intro values column
      obtain ⟨tokens, isTokens⟩ := Option.ne_none_iff_exists'.mp batch.tokens
      have length := batch.lengths "tokens" (by decide) tokens isTokens
      simp only [subsetOf, isTokens, Option.map_some] at column
      rw [if_pos (by decide), Option.some_inj] at column
      have kept := congrArg List.length (@filterMap_selected _ _ teacherId _ length)
      rw [length_map, length_map] at kept
      rw [← column, kept]
    · obtain ⟨tokens, isTokens⟩ := Option.ne_none_iff_exists'.mp batch.tokens
      simp only [subsetOf, isTokens]
      rw [if_pos (by decide)]
      simp
    · exact lists_subset batch.microbatches
  have scatters := congrArg (scatter scorer.routedValues)
    (zip_placed (valueOf settings score data teacherId) selected)
  refine ⟨{ scorer with
    activeModel := tag
    producedValues := true
    routedValues := scatter scorer.routedValues (selected.zip (selected.map _)) },
    ?_, rfl, scatters⟩
  unfold scoreTeacher
  refine (bind_of_ok (by rw [buildTeacherSubset_ok batch member]; rfl)).trans ?_
  refine (bind_of_ok (by rw [isTag]; rfl)).trans ?_
  refine (bind_of_ok (switchModel_ok switches)).trans ?_
  refine (bind_of_ok rfl).trans ?_
  refine (bind_of_ok (by simp only; rw [output]; rfl)).trans ?_
  refine (bind_of_ok (by rw [failIf, if_neg (by simp [selected])]; rfl)).trans ?_
  rfl

def placed (settings : Settings) (score : String → (String → Option Field) → Value)
    (data : RolloutData Field) (teacherIds through : List String) (index : Nat) :
    Option (Option Value) :=
  (teacherIds[index]?).map fun teacherId =>
    if teacherId ∈ through then some (valueOf settings score data teacherId index) else none

theorem placed_scatter {through : List String} {values : List (Option Value)}
    (before : ∀ index : Nat, values[index]? =
      placed settings score data teacherIds through index) (index : Nat) :
    (scatter values ((selectedIndices teacherIds teacherId).map
      fun old => (old, valueOf settings score data teacherId old)))[index]? =
        placed settings score data teacherIds (teacherId :: through) index := by
  rw [scatter_at, before index]
  simp only [mem_selectedIndices]
  cases routed : teacherIds[index]? with
  | none => simp [placed, routed]
  | some other =>
    have within : index < values.length := by
      apply (List.getElem_of_getElem? (before index |>.trans _)).1
      · exact if other ∈ through then some (valueOf settings score data other index) else none
      · rw [placed, routed, Option.map_some]
    by_cases same : other = teacherId
    · subst same
      simp [placed, routed, within]
    · simp [placed, routed, same]

theorem scoreAll_ok (batch : LocalBatch settings actor data teacherIds)
    (scores : ScoresInOrder actor score) (rest through : List String) (scorer : Scorer Value)
    (known : ∀ teacherId ∈ rest, teacherId ∈ teacherIds)
    (before : ∀ index : Nat, scorer.routedValues[index]? =
      placed settings score data teacherIds through index)
    (produced : through ≠ [] → scorer.producedValues = true) :
    ∃ final, scoreAll settings actor data teacherIds rest scorer = (.ok (), final) ∧
      (∀ index : Nat, final.routedValues[index]? =
        placed settings score data teacherIds (rest ++ through) index) ∧
      (rest ++ through ≠ [] → final.producedValues = true) := by
  induction rest generalizing scorer through with
  | nil => exact ⟨scorer, rfl, before, produced⟩
  | cons teacherId rest ih =>
    obtain ⟨scored, returnedFirst, isProduced, isScattered⟩ :=
      scoreTeacher_ok batch scores scorer (known teacherId mem_cons_self)
    have here : ∀ index : Nat, scored.routedValues[index]? =
        placed settings score data teacherIds (teacherId :: through) index := by
      rw [isScattered]
      exact placed_scatter before
    obtain ⟨final, returned, after, someProduced⟩ := ih (teacherId :: through) scored
      (fun other member => known other (mem_cons_of_mem _ member))
      here (fun _ => isProduced)
    refine ⟨final, (bind_of_ok returnedFirst).trans returned, ?_, ?_⟩
    rotate_left
    · exact fun _ => someProduced (by simp)
    intro index
    rw [after index]
    simp [placed, or_left_comm]

def HomeSwitches (settings : Settings) (actor : BaseActor Field Value) : Prop :=
  ∀ active, actor.switchModel settings.home active = (.ok (), settings.home)

def trainingModels : List String := ["actor", "old_actor"]

theorem home_mem : settings.home ∈ trainingModels := by
  unfold Settings.home trainingModels
  split <;> simp

def Restored (scorer : Scorer Value) : Prop :=
  scorer.activeModel ∈ trainingModels

theorem publishValues_restored :
    Preserves Restored (publishValues teacherIds : Effect (Scorer Value) ScoringError Unit) := by
  unfold publishValues
  refine preserves_bind preserves_get fun scorer => ?_
  split
  · refine preserves_bind (preserves_failIf _ _) fun _ => ?_
    refine preserves_bind ?_ fun _ => ?_
    · exact preserves_modify fun _ holds => holds
    · exact preserves_modify fun _ holds => holds
  · exact preserves_modify fun _ holds => holds

theorem scoreRoutedTeachers_restored (homes : HomeSwitches settings actor)
    (atEntry : Restored scorer) :
    Restored (scoreRoutedTeachers settings actor data teacherIds scorer).2 := by
  apply Ensures.final
  unfold scoreRoutedTeachers
  refine ensures_bind (ensures_ofExcept (fun tokens _ => ?_) fun _ _ => atEntry)
  refine ensures_bind (ensures_failIf (fun _ => ?_) fun _ => atEntry)
  refine ensures_bind (ensures_failIf (fun _ => ?_) fun _ => atEntry)
  refine ensures_bind (ensures_modify (ensures_bind ?_))
  have switchedBack : ∀ tried (left : Scorer Value),
      Ensures (do switchModel actor settings.home; ofExcept tried; publishValues teacherIds) left
        (fun _ => Restored) (fun _ => Restored) := by
    intro tried left
    have back : Ensures (switchModel actor settings.home) left (fun _ => Restored)
        (fun _ => Restored) := by
      unfold Ensures
      rw [switchModel_ok homes]
      exact home_mem
    refine ensures_bind (back.mono (fun _ middle active => ?_) fun _ _ => id)
    refine ensures_bind (ensures_ofExcept (fun _ _ => ?_) fun _ _ => active)
    exact publishValues_restored.ensures active
  apply ensures_attempt
  exact (ensures_outcome _ _).mono (fun value left _ => switchedBack (.ok value) left)
    fun failure left _ => switchedBack (.error failure) left

theorem missingPositions_nil {values : List (Option Value)}
    (full : ∀ index : Nat, values[index]? =
      placed settings score data teacherIds teacherIds index) : missingPositions values = [] := by
  unfold missingPositions
  rw [filter_eq_nil_iff]
  intro index member
  rw [mem_range] at member
  have here := full index
  rw [getElem?_eq_getElem member, placed, eq_comm, Option.map_eq_some_iff] at here
  obtain ⟨teacherId, routed, isValue⟩ := here
  rw [if_pos (mem_of_getElem? routed)] at isValue
  rw [getElem?_eq_getElem member, ← isValue]
  simp

theorem publishValues_ok (teacherIds : List String) (scorer : Scorer Value)
    (complete : missingPositions scorer.routedValues = []) :
    ∃ final, publishValues teacherIds scorer = (.ok (), final) ∧
      final.activeModel = scorer.activeModel ∧
      (scorer.producedValues = true → final.teacherLogProbs = some scorer.routedValues) := by
  have read := @bind_of_ok (Scorer Value) ScoringError _ Unit Effect.get
  cases isProduced : scorer.producedValues with
  | true =>
    refine ⟨{ scorer with
      teacherLogProbs := some scorer.routedValues
      activeTeacherIds := some teacherIds }, ?_, rfl, fun _ => rfl⟩
    refine (read rfl).trans ?_
    rw [if_pos isProduced]
    refine (bind_of_ok (by rw [failIf, if_neg (not_not.mpr complete)]; rfl)).trans ?_
    rfl
  | false =>
    refine ⟨{ scorer with activeTeacherIds := some teacherIds }, ?_, rfl, by simp⟩
    refine (read rfl).trans ?_
    rw [if_neg (by rw [isProduced]; simp)]
    rfl

theorem scoreRoutedTeachers_ok (batch : LocalBatch settings actor data teacherIds)
    (scores : ScoresInOrder actor score) (homes : HomeSwitches settings actor)
    (noReplay : settings.useRoutingReplay = false) :
    ∃ final, scoreRoutedTeachers settings actor data teacherIds scorer = (.ok (), final) ∧
      final.activeModel = settings.home ∧
      ∀ (position : Nat) teacherId, teacherIds[position]? = some teacherId →
        ∃ values, final.teacherLogProbs = some values ∧
          values[position]? = some (some (valueOf settings score data teacherId position)) := by
  obtain ⟨tokens, isTokens⟩ := Option.ne_none_iff_exists'.mp batch.tokens
  have counted := batch.lengths "tokens" (by decide) tokens isTokens
  have none_placed : ∀ index : Nat, (List.replicate teacherIds.length none)[index]? =
      placed settings score data teacherIds [] index := by
    intro index
    rw [getElem?_replicate, placed]
    by_cases within : index < teacherIds.length
    · rw [if_pos within, getElem?_eq_getElem within]
      rfl
    · rw [if_neg within, getElem?_eq_none (by omega)]
      rfl
  obtain ⟨left, tried, after, produced⟩ := scoreAll_ok
    batch scores teacherIds.eraseDups []
    { scorer with
      routedValues := List.replicate teacherIds.length none
      producedValues := false }
    (fun _ => mem_eraseDups.mp) none_placed
    (fun impossible => absurd rfl impossible)
  have full : ∀ index : Nat, left.routedValues[index]? =
      placed settings score data teacherIds teacherIds index := by
    intro index
    rw [after index]
    simp [placed]
  have begun : scoreRoutedTeachers settings actor data teacherIds scorer =
      publishValues teacherIds { left with activeModel := settings.home } := by
    unfold scoreRoutedTeachers
    refine (bind_of_ok (by rw [isTokens]; rfl)).trans ?_
    refine (bind_of_ok (by rw [failIf, if_neg (not_not.mpr counted.symm)]; rfl)).trans ?_
    refine (bind_of_ok (by rw [failIf, if_neg (by rw [noReplay]; simp)]; rfl)).trans ?_
    refine (bind_of_ok rfl).trans ?_
    refine (bind_of_ok (by rw [attempt, tried])).trans ?_
    refine (bind_of_ok (switchModel_ok homes)).trans ?_
    rfl
  obtain ⟨final, published, active, values⟩ := publishValues_ok teacherIds
    { left with activeModel := settings.home } (missingPositions_nil full)
  refine ⟨final, begun.trans published, active, ?_⟩
  intro position teacherId routed
  have member := mem_of_getElem? routed
  refine ⟨_, values (produced ?_), ?_⟩
  · rw [append_nil]
    exact ne_nil_of_mem (mem_eraseDups.mpr member)
  · exact (full position).trans (by rw [placed, routed, Option.map_some, if_pos member])

/-- The values do not depend on the microbatches, which may be any that list each sample
once; the last part is about any other call, with any errors in it. -/
theorem teacher_values_in_place (batch : LocalBatch settings actor data teacherIds)
    (scores : ScoresInOrder actor score) (homes : HomeSwitches settings actor)
    (noReplay : settings.useRoutingReplay = false) :
    (∀ teacherId ∈ teacherIds, ∃ subset selected,
      buildTeacherSubset data teacherIds teacherId = .ok (subset, selected) ∧
        ListsEachOnce subset.microBatchIndices selected.length) ∧
    (∀ microBatchIndices, ListsEachOnce microBatchIndices teacherIds.length →
      ∀ scorer : Scorer Value, ∃ final,
        scoreRoutedTeachers settings actor { data with microBatchIndices } teacherIds scorer =
          (.ok (), final) ∧
        final.activeModel = settings.home ∧
        ∀ (position : Nat) teacherId, teacherIds[position]? = some teacherId →
          ∃ values, final.teacherLogProbs = some values ∧
            values[position]? = some (some (valueOf settings score data teacherId position))) ∧
    ∀ (other : BaseActor Field Value) anyData anyTeacherIds (scorer : Scorer Value),
      HomeSwitches settings other → Restored scorer →
        Restored (scoreRoutedTeachers settings other anyData anyTeacherIds scorer).2 := by
  refine ⟨?_, ?_, fun other anyData anyTeacherIds scorer => scoreRoutedTeachers_restored⟩
  · intro teacherId member
    exact ⟨_, _, buildTeacherSubset_ok batch member, lists_subset batch.microbatches⟩
  · intro microBatchIndices listed scorer
    exact scoreRoutedTeachers_ok { batch with microbatches := listed } scores homes noReplay

def twoTeachers : List String := ["code", "math", "code"]

def threeRows : RolloutData Nat :=
  { column := fun key => if key = "tokens" then some [7, 8, 9] else none
    microBatchIndices := [[2, 1], [0]] }

def settingsFor (useRoutingReplay : Bool) : Settings :=
  { useRoutingReplay := useRoutingReplay
    keepOldActor := false
    mopdTeacherTags := [("math", "teacher:math"), ("code", "teacher:code")] }

def idle : Scorer (String × Nat) :=
  { activeModel := "actor"
    routedValues := []
    producedValues := false
    teacherLogProbs := none
    activeTeacherIds := none }

def scoreTokens (active : String) (row : String → Option Nat) : String × Nat :=
  (active, (row "tokens").getD 0)

def plainActor : BaseActor Nat (String × Nat) :=
  { switchModel := fun tag _ => (.ok (), tag)
    computeLogProb := fun active subset =>
      .ok (some ((List.range ((subset.column "tokens").getD []).length).map fun index =>
        scoreTokens active (subset.row index))) }

theorem plainActor_scores : ScoresInOrder plainActor scoreTokens := by
  intro active subset sampleCount counted present listed
  obtain ⟨tokens, isTokens⟩ := Option.ne_none_iff_exists'.mp present
  rw [← counted tokens isTokens]
  simp only [plainActor, isTokens, Option.getD_some]

theorem twoTeachers_listed : ListsEachOnce threeRows.microBatchIndices twoTeachers.length := by
  unfold ListsEachOnce
  decide

theorem twoTeachers_batch (useRoutingReplay : Bool) :
    LocalBatch (settingsFor useRoutingReplay) plainActor threeRows twoTeachers where
  tokens := by decide
  lengths := by
    intro key _ values column
    by_cases isTokens : key = "tokens"
    · subst isTokens
      cases column
      rfl
    · simp [threeRows, isTokens] at column
  microbatches := twoTeachers_listed
  loaded := by
    intro teacherId member
    have isOne : teacherId = "code" ∨ teacherId = "math" := by
      simpa [twoTeachers, or_comm, or_assoc] using member
    rcases isOne with rfl | rfl
    · exact ⟨"teacher:code", rfl, fun _ => rfl⟩
    · exact ⟨"teacher:math", rfl, fun _ => rfl⟩

theorem two_teachers_in_place : ∃ final,
    scoreRoutedTeachers (settingsFor false) plainActor threeRows twoTeachers idle =
      (.ok (), final) ∧
      ∃ values, final.teacherLogProbs = some values ∧
        values[2]? = some (some ("teacher:code", 9)) := by
  have placed := teacher_values_in_place (twoTeachers_batch false) plainActor_scores
    (fun _ => rfl) rfl
  obtain ⟨final, returned, _, values⟩ := placed.2.1 _ twoTeachers_listed idle
  exact ⟨final, returned, values 2 "code" rfl⟩

theorem routing_replay_refused :
    ¬ ∀ settings (actor : BaseActor Nat (String × Nat)) data teacherIds score scorer,
    LocalBatch settings actor data teacherIds → ScoresInOrder actor score →
      HomeSwitches settings actor →
        (scoreRoutedTeachers settings actor data teacherIds scorer).1 = .ok () := by
  intro never
  have returned := never (settingsFor true) plainActor threeRows twoTeachers scoreTokens idle
    (twoTeachers_batch true) plainActor_scores fun _ => rfl
  cases returned

end Dressage.Training.RoutedTeachers

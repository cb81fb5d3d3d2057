/-
Resuming the prompt source of a Harbor run.

The k-th training group of a source depends on k alone. The cursor of a source is a way of
writing k, and a checkpoint keeps it together with the run id the instance ids are made of.
-/

import Dressage.Harbor.PromptSource

namespace Dressage.Harbor.DataSource

open Lib Lib.Effect List HarborDataSource

section Sources

variable {Job : Type} (runtime : Runtime Job)

theorem shuffleFrom_perm (randbelow : (index : Nat) → Fin (index + 1)) (index : Nat)
    (order : Array Nat) : (shuffleFrom randbelow index order).Perm order := by
  induction index generalizing order with
  | zero => exact Array.Perm.refl order
  | succ index ih =>
    rw [shuffleFrom]
    refine (ih _).trans ?_
    rw [Array.swapIfInBounds_def]
    split
    · split
      · exact Array.swap_perm _ _
      · exact Array.Perm.refl order
    · exact Array.Perm.refl order

theorem epochOrder_perm (config : HarborConfig Job) (epochId : Nat) :
    (epochOrder runtime config epochId).toList.Perm (List.range config.specs.length) := by
  have plain : (Array.range config.specs.length).toList = List.range config.specs.length :=
    Array.toList_range
  unfold epochOrder
  split
  · rw [← plain]
    exact Array.Perm.toList (shuffleFrom_perm _ _ _)
  · rw [plain]

def specAt (config : HarborConfig Job) (position : Nat) : Option HarborPromptSpec :=
  (epochOrder runtime config (position / config.specs.length))[
    position % config.specs.length]?.bind (fun index => config.specs[index]?)

theorem HarborConfig.length_pos (config : HarborConfig Job) : 0 < config.specs.length :=
  length_pos_iff.mpr config.resolved

def epochSpecs (config : HarborConfig Job) (epochId : Nat) : List HarborPromptSpec :=
  (epochOrder runtime config epochId).toList.filterMap (fun index => config.specs[index]?)

theorem epochSpecs_perm (config : HarborConfig Job) (epochId : Nat) :
    (epochSpecs runtime config epochId).Perm config.specs := by
  have all : (List.range config.specs.length).filterMap (fun index => config.specs[index]?) =
      config.specs := by
    have listed : (List.range config.specs.length).map (fun index => config.specs[index]?) =
        config.specs.map some := by
      apply ext_getElem
      · rw [length_map, length_map, length_range]
      · intro index inside _
        rw [getElem_map, getElem_map, getElem_range]
        exact getElem?_eq_getElem _
    calc (List.range config.specs.length).filterMap (fun index => config.specs[index]?) =
        ((List.range config.specs.length).map (fun index => config.specs[index]?)).filterMap id :=
          by rw [filterMap_map]; rfl
      _ = (config.specs.map some).filterMap id := by rw [listed]
      _ = config.specs := by rw [filterMap_map]; exact filterMap_some
  have shuffled := (epochOrder_perm runtime config epochId).filterMap
    (fun index => config.specs[index]?)
  rw [all] at shuffled
  exact shuffled

theorem epochOrder_size (config : HarborConfig Job) (epochId : Nat) :
    (epochOrder runtime config epochId).size = config.specs.length := by
  have sizes := (epochOrder_perm runtime config epochId).length_eq
  rwa [Array.length_toList, length_range] at sizes

theorem specAt_isSome (config : HarborConfig Job) (position : Nat) :
    ∃ spec, specAt runtime config position = some spec := by
  have inside : position % config.specs.length <
      (epochOrder runtime config (position / config.specs.length)).size := by
    rw [epochOrder_size runtime]
    exact Nat.mod_lt position config.length_pos
  have served := (epochOrder_perm runtime config
    (position / config.specs.length)).mem_iff.mp
      (Array.mem_toList_iff.mpr (Array.getElem_mem inside))
  apply Option.isSome_iff_exists.mp
  unfold specAt
  rw [Array.getElem?_eq_getElem inside, Option.bind_some, getElem?_eq_getElem (mem_range.mp served)]
  rfl

structure Placed (source : HarborDataSource Job) : Prop where
  position : source.epochId * source.config.specs.length + source.sampleOffset =
    source.sampleGroupIndex
  cursor : source.sampleOffset ≤ source.config.specs.length
  indices : source.sampleIndex = source.sampleGroupIndex * source.config.nSamplesPerPrompt

def groupAt (config : HarborConfig Job) (runId : String) (position : Nat) : Option Group :=
  (specAt runtime config position).map (fun spec =>
    sampleGroup spec config.nSamplesPerPrompt position
      (position * config.nSamplesPerPrompt : Nat)
      (instanceId runtime runId "train" position spec.specId) false)

variable {source origin : HarborDataSource Job} {runId uuidHex : String} {config : HarborConfig Job}

private theorem nextTrainingSpec_ensures (placed : Placed source) :
    Ensures (nextTrainingSpec runtime) source
      (fun spec after =>
        specAt runtime source.config source.sampleGroupIndex = some spec ∧
          after =
            { source with
              epochId := source.sampleGroupIndex / source.config.specs.length
              sampleOffset := source.sampleGroupIndex % source.config.specs.length + 1 })
      (fun _ _ => False) := by
  have positive := source.config.length_pos
  have position := placed.position
  have cursor := placed.cursor
  have wrapped : (if source.config.specs.length ≤ source.sampleOffset then
      { source with
        epochId := source.epochId + 1
        sampleOffset := 0 }
    else source) =
      { source with
        epochId := source.sampleGroupIndex / source.config.specs.length
        sampleOffset := source.sampleGroupIndex % source.config.specs.length } := by
    split
    · next full =>
        obtain ⟨epoch, offset⟩ := (Nat.div_mod_unique positive).mpr
          (⟨by rw [Nat.mul_comm, Nat.add_mul]; omega, positive⟩ :
            0 + source.config.specs.length * (source.epochId + 1) = source.sampleGroupIndex ∧
              0 < source.config.specs.length)
        rw [epoch, offset]
    · next within =>
        obtain ⟨epoch, offset⟩ := (Nat.div_mod_unique positive).mpr
          (⟨by rw [Nat.mul_comm]; omega, by omega⟩ :
            source.sampleOffset + source.config.specs.length * source.epochId =
              source.sampleGroupIndex ∧ source.sampleOffset < source.config.specs.length)
        rw [epoch, offset]
  refine ensures_bind (ensures_modify ?_)
  rw [wrapped]
  refine ensures_bind (ensures_get ?_)
  obtain ⟨spec, found⟩ := specAt_isSome runtime source.config source.sampleGroupIndex
  have drawn := found
  unfold specAt at drawn
  dsimp only
  rw [drawn]
  exact ensures_bind (ensures_modify (ensures_pure ⟨found, rfl⟩))

structure Advanced (count : Nat) (before after : HarborDataSource Job) : Prop where
  placed : Placed after
  config : after.config = before.config
  runId : after.runId = before.runId
  groups : after.sampleGroupIndex = before.sampleGroupIndex + count
  weightVersion : after.lastBatchWeightVersion = before.lastBatchWeightVersion
  incarnation : after.lastRuntimeIncarnation = before.lastRuntimeIncarnation

theorem Advanced.refl (placed : Placed source) : Advanced 0 source source :=
  { placed := placed
    config := rfl
    runId := rfl
    groups := rfl
    weightVersion := rfl
    incarnation := rfl }

theorem Advanced.trans {first second : Nat} {before middle after : HarborDataSource Job}
    (left : Advanced first before middle) (right : Advanced second middle after) :
    Advanced (first + second) before after :=
  { placed := right.placed
    config := right.config.trans left.config
    runId := right.runId.trans left.runId
    groups := by rw [right.groups, left.groups, Nat.add_assoc]
    weightVersion := right.weightVersion.trans left.weightVersion
    incarnation := right.incarnation.trans left.incarnation }

private theorem nextGroup_ensures (placed : Placed source) :
    Ensures (nextGroup runtime) source
      (fun group after =>
        groupAt runtime source.config source.runId source.sampleGroupIndex = some group ∧
          Advanced 1 source after)
      (fun _ _ => False) := by
  apply ensures_bind
  refine (nextTrainingSpec_ensures runtime placed).mono (fun spec middle drawn => ?_)
    (fun _ _ impossible => impossible)
  obtain ⟨found, rfl⟩ := drawn
  refine ensures_bind (ensures_get (ensures_bind (ensures_modify (ensures_pure ⟨?_, ?_⟩))))
  · unfold groupAt
    rw [found, ← placed.indices]
    rfl
  · have positive := source.config.length_pos
    refine
      { placed :=
          { position := ?_
            cursor := ?_
            indices := ?_ }
        config := rfl
        runId := rfl
        groups := rfl
        weightVersion := rfl
        incarnation := rfl }
    · dsimp only
      rw [← Nat.add_assoc, Nat.mul_comm, Nat.div_add_mod]
    · exact Nat.mod_lt _ positive
    · dsimp only
      rw [sampleGroup, length_map, length_range, placed.indices, Nat.add_mul, Nat.one_mul]

private theorem nextGroups_ensures (placed : Placed source) (count : Nat) :
    Ensures (nextGroups runtime count) source
      (fun groups after => groups.map some = (List.range' source.sampleGroupIndex count).map
          (groupAt runtime source.config source.runId) ∧
        Advanced count source after)
      (fun _ _ => False) := by
  induction count generalizing source with
  | zero => exact ⟨rfl, Advanced.refl placed⟩
  | succ count ih =>
    apply ensures_bind
    refine (nextGroup_ensures runtime placed).mono (fun group middle first => ?_)
      (fun _ _ impossible => impossible)
    obtain ⟨isGroup, advanced⟩ := first
    apply ensures_bind
    refine (ih advanced.placed).mono (fun groups after rest => ?_)
      (fun _ _ impossible => impossible)
    obtain ⟨areGroups, later⟩ := rest
    refine ensures_pure ⟨?_, ?_⟩
    · rw [range'_succ, map_cons, map_cons, isGroup, areGroups, advanced.config,
        advanced.runId, advanced.groups]
    · have both := advanced.trans later
      rwa [Nat.add_comm 1 count] at both

inductive Request
  | getSamples (numSamples : Int)
  | getEvalSamples (numSamples : Option Int)
  | recordBatchState (weightVersion runtimeIncarnation : Option String)
deriving DecidableEq, Repr

def perform : Request → SourceEffect Job (List Group)
  | .getSamples numSamples => getSamples runtime numSamples
  | .getEvalSamples numSamples => getEvalSamples runtime numSamples
  | .recordBatchState weightVersion runtimeIncarnation => do
    recordBatchState weightVersion runtimeIncarnation
    pure []

abbrev Outcome : Type := Request × Except SourceFailure (List Group)

def run : HarborDataSource Job → List Request → List Outcome × HarborDataSource Job
  | source, [] => ([], source)
  | source, request :: rest =>
    ((request, (perform runtime request source).1) ::
        (run (perform runtime request source).2 rest).1,
      (run (perform runtime request source).2 rest).2)

theorem run_append (source : HarborDataSource Job) (first second : List Request) :
    run runtime source (first ++ second) =
      ((run runtime source first).1 ++ (run runtime (run runtime source first).2 second).1,
        (run runtime (run runtime source first).2 second).2) := by
  induction first generalizing source with
  | nil => rfl
  | cons request rest ih =>
    simp only [cons_append, run, ih]

def trainedBy : Request → Except SourceFailure (List Group) → List Group
  | .getSamples _, .ok groups => groups
  | _, _ => []

def trained (outcomes : List Outcome) : List Group :=
  outcomes.flatMap (fun outcome => trainedBy outcome.1 outcome.2)

def Nonblank (value : Option String) : Prop :=
  ∀ text, value = some text → Text.strip text ≠ ""

structure Kept (origin source : HarborDataSource Job) : Prop where
  placed : Placed source
  config : source.config = origin.config
  runId : source.runId = origin.runId
  weightVersion : Nonblank source.lastBatchWeightVersion
  incarnation : Nonblank source.lastRuntimeIncarnation

theorem Kept.of_create (config : HarborConfig Job) (uuidHex : String) :
    Kept (create config uuidHex) (create config uuidHex) :=
  { placed :=
      { position := by simp [create]
        cursor := Nat.zero_le _
        indices := by simp [create] }
    config := rfl
    runId := rfl
    weightVersion := nofun
    incarnation := nofun }

private theorem Kept.advanced {count : Nat} {before after : HarborDataSource Job}
    (kept : Kept origin before) (advanced : Advanced count before after) : Kept origin after :=
  { placed := advanced.placed
    config := advanced.config.trans kept.config
    runId := advanced.runId.trans kept.runId
    weightVersion := by
      rw [advanced.weightVersion]
      exact kept.weightVersion
    incarnation := by
      rw [advanced.incarnation]
      exact kept.incarnation }

private theorem optionalNonemptyString_ok {value result : Option String} {name : String}
    (accepted : optionalNonemptyString value name = .ok result) :
    Nonblank result := by
  intro text isText
  subst isText
  cases value with
  | none => cases accepted
  | some given =>
    unfold optionalNonemptyString at accepted
    dsimp only at accepted
    split at accepted
    · cases accepted
    · next nonblank =>
        cases accepted
        exact nonblank

private theorem perform_ensures (kept : Kept origin source) (request : Request) :
    Kept origin (perform runtime request source).2 ∧
      ∃ count, (trainedBy request (perform runtime request source).1).map some =
          (List.range' source.sampleGroupIndex count).map
            (groupAt runtime origin.config origin.runId) ∧
        (perform runtime request source).2.sampleGroupIndex = source.sampleGroupIndex + count := by
  cases request with
  | getSamples numSamples =>
    have served : Ensures (perform runtime (.getSamples numSamples)) source
        (fun groups after => ∃ count, groups.map some =
            (List.range' source.sampleGroupIndex count).map
              (groupAt runtime source.config source.runId) ∧
          Advanced count source after)
        (fun _ after => after = source) := by
      refine ensures_bind (ensures_ofExcept (fun count _ => ?_) (fun _ _ => rfl))
      exact (nextGroups_ensures runtime kept.placed count).mono
        (fun groups after done => ⟨count, done⟩) (fun _ _ impossible => impossible.elim)
    unfold Ensures at served
    revert served
    rcases perform runtime (.getSamples numSamples) source with ⟨result, after⟩
    cases result with
    | ok groups =>
      rintro ⟨count, areGroups, advanced⟩
      rw [kept.config, kept.runId] at areGroups
      exact ⟨kept.advanced advanced, count, areGroups, advanced.groups⟩
    | error failure =>
      rintro rfl
      exact ⟨kept, 0, rfl, rfl⟩
  | getEvalSamples numSamples =>
    have looked : Ensures (perform runtime (.getEvalSamples numSamples)) source
        (fun _ after => after = source) (fun _ after => after = source) := by
      refine ensures_bind (ensures_get (ensures_bind (ensures_failIf (fun _ => ?_) (fun _ => rfl))))
      exact ensures_bind (ensures_ofExcept
        (fun count _ => ensures_ofExcept (fun _ _ => rfl) (fun _ _ => rfl)) (fun _ _ => rfl))
    have same := @Ensures.final _ _ _ _ _ (fun after => after = source) looked
    rw [same]
    exact ⟨kept, 0, rfl, rfl⟩
  | recordBatchState weightVersion runtimeIncarnation =>
    have recorded : Ensures (perform runtime (.recordBatchState weightVersion
        runtimeIncarnation)) source
        (fun groups after => Kept origin after ∧ after.sampleGroupIndex = source.sampleGroupIndex)
        (fun _ after => Kept origin after ∧ after.sampleGroupIndex = source.sampleGroupIndex) := by
      refine ensures_bind (ensures_bind (ensures_ofExcept (fun version validVersion => ?_)
        (fun _ _ => ⟨kept, rfl⟩)))
      refine ensures_bind (ensures_ofExcept (fun incarnation validIncarnation => ?_)
        (fun _ _ => ⟨kept, rfl⟩))
      refine ensures_modify (ensures_pure ⟨?_, rfl⟩)
      exact
        { placed :=
            { position := kept.placed.position
              cursor := kept.placed.cursor
              indices := kept.placed.indices }
          config := kept.config
          runId := kept.runId
          weightVersion := optionalNonemptyString_ok validVersion
          incarnation := optionalNonemptyString_ok validIncarnation }
    have final := @Ensures.final _ _ _ _ _ (fun after => Kept origin after ∧
      after.sampleGroupIndex = source.sampleGroupIndex) recorded
    exact ⟨final.1, 0, rfl, final.2⟩

theorem run_kept (kept : Kept origin source) (requests : List Request) :
    Kept origin (run runtime source requests).2 ∧
      ∃ count, (trained (run runtime source requests).1).map some =
          (List.range' source.sampleGroupIndex count).map
            (groupAt runtime origin.config origin.runId) ∧
        (run runtime source requests).2.sampleGroupIndex = source.sampleGroupIndex + count := by
  induction requests generalizing source with
  | nil => exact ⟨kept, 0, rfl, rfl⟩
  | cons request rest ih =>
    obtain ⟨keptHere, first, firstGroups, firstIndex⟩ := perform_ensures runtime kept request
    obtain ⟨keptAfter, later, laterGroups, laterIndex⟩ := ih keptHere
    refine ⟨keptAfter, first + later, ?_, ?_⟩
    · have split : trained (run runtime source (request :: rest)).1 =
          trainedBy request (perform runtime request source).1 ++
            trained (run runtime (perform runtime request source).2 rest).1 := rfl
      rw [split, map_append, firstGroups, laterGroups, firstIndex, ← map_append, range'_append_1]
    · rw [← Nat.add_assoc, ← firstIndex]
      exact laterIndex

/-- The training groups of a run: numbered without gap or repeat, with samples numbered the
same way, and every entry served once in each epoch that ended. -/
structure Consecutive (config : HarborConfig Job) (served : List Group) : Prop where
  groupIndices : ∀ (position : Nat) (group : Group), served[position]? = some group →
    ∀ sample ∈ group, sample.groupIndex = position
  sampleIndices : served.flatten.map Sample.index =
    (List.range (served.length * config.nSamplesPerPrompt)).map (fun index : Nat => (index : Int))
  epochs : ∀ epoch, (epoch + 1) * config.specs.length ≤ served.length →
    ∃ order : List HarborPromptSpec, order.Perm config.specs ∧
      List.Forall₂ (fun group spec => group ≠ [] ∧ ∀ sample ∈ group,
          sample.harborSpecId = spec.specId)
        ((served.drop (epoch * config.specs.length)).take config.specs.length) order

theorem groupAt_indices {position : Nat} {group : Group}
    (isGroup : groupAt runtime config runId position = some group) :
    group.map Sample.index = (List.range config.nSamplesPerPrompt).map (fun slot : Nat =>
      ((position * config.nSamplesPerPrompt + slot : Nat) : Int)) := by
  obtain ⟨spec, _, rfl⟩ := Option.map_eq_some_iff.mp isGroup
  unfold sampleGroup
  rw [map_map]
  apply map_congr_left
  intro slot _
  simp

theorem groupAt_sample {position : Nat} {group : Group}
    (isGroup : groupAt runtime config runId position = some group) :
    ∃ spec, specAt runtime config position = some spec ∧ group ≠ [] ∧
      ∀ sample ∈ group, sample.groupIndex = position ∧ sample.harborSpecId = spec.specId := by
  obtain ⟨spec, found, rfl⟩ := Option.map_eq_some_iff.mp isGroup
  refine ⟨spec, found, ?_, fun sample member => ?_⟩
  · intro empty
    have sizes := congrArg List.length empty
    rw [sampleGroup, length_map, length_range] at sizes
    exact absurd sizes (Nat.ne_of_gt config.positive)
  · obtain ⟨slot, _, rfl⟩ := mem_map.mp member
    exact ⟨rfl, rfl⟩

theorem epochSpecs_eq (config : HarborConfig Job) (epoch : Nat) :
    (epochSpecs runtime config epoch).map some =
      (List.range' (epoch * config.specs.length) config.specs.length).map
        (specAt runtime config) := by
  have positive := config.length_pos
  have size := epochOrder_size runtime config epoch
  have placed : (List.range' (epoch * config.specs.length) config.specs.length).map
      (specAt runtime config) =
        (epochOrder runtime config epoch).toList.map (fun index => config.specs[index]?) := by
    apply ext_getElem
    · rw [length_map, length_range', length_map, Array.length_toList, size]
    · intro slot inside _
      rw [length_map, length_range'] at inside
      obtain ⟨quotient, remainder⟩ := (Nat.div_mod_unique positive).mpr
        (⟨by rw [Nat.mul_comm, Nat.add_comm], inside⟩ :
          slot + config.specs.length * epoch = epoch * config.specs.length + slot ∧
            slot < config.specs.length)
      rw [getElem_map, getElem_map, getElem_range', Nat.one_mul]
      unfold specAt
      rw [quotient, remainder, Array.getElem?_eq_getElem (by rw [size]; exact inside)]
      rfl
  have known : ∀ index ∈ (epochOrder runtime config epoch).toList,
      ∃ spec, config.specs[index]? = some spec := by
    intro index member
    have inRange := (epochOrder_perm runtime config epoch).mem_iff.mp member
    exact ⟨_, getElem?_eq_getElem (mem_range.mp inRange)⟩
  rw [placed]
  unfold epochSpecs
  generalize (epochOrder runtime config epoch).toList = order at known
  induction order with
  | nil => rfl
  | cons index rest ih =>
    obtain ⟨spec, found⟩ := known index mem_cons_self
    rw [filterMap_cons_some found, map_cons, map_cons, found,
      ih (fun other member => known other (mem_cons_of_mem index member))]

theorem forall₂_of_map {ι α β : Type} {related : α → β → Prop} {positions : List ι}
    {left : List α} {right : List β} {first : ι → Option α} {second : ι → Option β}
    (isLeft : left.map some = positions.map first) (isRight : right.map some = positions.map second)
    (holds : ∀ position a b, first position = some a → second position = some b → related a b) :
    List.Forall₂ related left right := by
  induction positions generalizing left right with
  | nil =>
    rw [map_nil, map_eq_nil_iff] at isLeft isRight
    rw [isLeft, isRight]
    exact List.Forall₂.nil
  | cons position rest ih =>
    obtain ⟨a, left', rfl, isFirst, isLeft'⟩ := map_eq_cons_iff.mp isLeft
    obtain ⟨b, right', rfl, isSecond, isRight'⟩ := map_eq_cons_iff.mp isRight
    exact List.Forall₂.cons (holds position a b isFirst.symm isSecond.symm) (ih isLeft' isRight')

private theorem range_mul (count size : Nat) :
    (List.range count).flatMap (fun position => (List.range size).map (position * size + ·)) =
      List.range (count * size) := by
  induction count with
  | zero => simp
  | succ count ih =>
    rw [range_succ, flatMap_append, ih, Nat.add_mul, Nat.one_mul, range_add]
    simp

theorem consecutive_of_groups {served : List Group} {count : Nat}
    (areGroups : served.map some = (List.range' 0 count).map (groupAt runtime config runId)) :
    Consecutive config served := by
  have length : served.length = count := by
    have sizes := congrArg List.length areGroups
    rwa [length_map, length_map, length_range'] at sizes
  have found : ∀ (position : Nat) (group : Group), served[position]? = some group →
      groupAt runtime config runId position = some group := by
    intro position group isGroup
    have here := congrArg (fun groups => groups[position]?) areGroups
    have inside : position < count := by
      rw [← length]
      exact (List.getElem_of_getElem? isGroup).1
    rw [getElem?_map, isGroup, getElem?_map, getElem?_range' inside] at here
    simpa using here.symm
  refine
    { groupIndices := fun position group isGroup sample member => ?_
      sampleIndices := ?_
      epochs := fun epoch ended => ?_ }
  · obtain ⟨_, _, _, samples⟩ := groupAt_sample runtime (found position group isGroup)
    exact (samples sample member).1
  · have indices : served.map (List.map Sample.index) = (List.range count).map (fun position =>
        (List.range config.nSamplesPerPrompt).map (fun slot : Nat =>
          ((position * config.nSamplesPerPrompt + slot : Nat) : Int))) := by
      apply ext_getElem?
      intro position
      rw [getElem?_map, getElem?_map]
      cases isGroup : served[position]? with
      | none =>
        have outside : count ≤ position := by
          rw [← length]
          exact List.getElem?_eq_none_iff.mp isGroup
        rw [getElem?_eq_none (by rwa [length_range])]
        rfl
      | some group =>
        have inside : position < count := by
          rw [← length]
          exact (List.getElem_of_getElem? isGroup).1
        rw [getElem?_range inside]
        exact congrArg some (groupAt_indices runtime (found position group isGroup))
    rw [map_flatten, indices, length, ← range_mul, map_flatMap, flatMap_def]
    simp only [map_map, Function.comp_def]
  · refine ⟨epochSpecs runtime config epoch, epochSpecs_perm runtime config epoch, ?_⟩
    have block : ((served.drop (epoch * config.specs.length)).take config.specs.length).map some =
        (List.range' (epoch * config.specs.length) config.specs.length).map
          (groupAt runtime config runId) := by
      rw [map_take, map_drop, areGroups, ← map_drop, ← map_take,
        drop_range', take_range'_of_length_ge]
      · simp
      · rw [Nat.add_mul, Nat.one_mul, length] at ended
        omega
    exact forall₂_of_map block (epochSpecs_eq runtime config epoch)
      (fun position group spec isGroup isSpec => by
        obtain ⟨served, isServed, nonempty, samples⟩ := groupAt_sample runtime isGroup
        rw [isSpec] at isServed
        cases isServed
        exact ⟨nonempty, fun sample member => (samples sample member).2⟩)

theorem equals_optionalText (value : Option String) : (optionalText value).equals value = true := by
  cases value with
  | none => rfl
  | some text => exact decide_eq_true rfl

private theorem checkExpected_payload {fresh : HarborDataSource Job}
    (config : fresh.config = source.config) (rest : List (String × Json)) :
    checkExpected ((source.expected runtime).map (fun entry => (entry.1, optionalText entry.2)) ++
      rest) (fresh.expected runtime) = .ok () := by
  have expected : fresh.expected runtime = source.expected runtime := by
    unfold HarborDataSource.expected evalSourceDigest
      evalResolvedDigest
    rw [config]
  rw [expected]
  simp [HarborDataSource.expected, checkExpected, field, equals_optionalText]

private theorem checkpointOptionalString_ok {entries : List (String × Json)} {key : String}
    {value : Option String} (found : field entries key = optionalText value)
    (nonblank : Nonblank value) : checkpointOptionalString entries key = .ok value := by
  unfold checkpointOptionalString
  rw [found]
  cases value with
  | none => rfl
  | some text => exact if_neg (nonblank text rfl)

private theorem checkpointInt_ok {entries : List (String × Json)} {key : String} {value : Nat}
    (found : field entries key = .integer value) : checkpointInt entries key = .ok value := by
  unfold checkpointInt
  rw [found]
  dsimp only
  rw [if_neg (Int.not_lt.mpr (Int.natCast_nonneg value)), Int.toNat_natCast]

private theorem checkpointRunId_ok {uuidHex' : String} {payload : List (String × Json)}
    (named : uuidHex ≠ "") (kept : Kept (create config uuidHex) source)
    (found : field payload "run_id" = .text source.runId) :
    checkpointRunId (create config uuidHex') payload = .ok source.runId := by
  have isRun : source.runId =
    if config.runIdExplicit then config.runId.getD "" else uuidHex := kept.runId
  have nonempty : source.runId ≠ "" := by
    rw [isRun]
    split
    · next explicit =>
        unfold HarborConfig.runIdExplicit at explicit
        cases given : config.runId with
        | none =>
          rw [given] at explicit
          cases explicit
        | some runId =>
          rw [given] at explicit
          exact of_decide_eq_true explicit
    · exact named
  have same : config.runIdExplicit = true →
      source.runId = (create config uuidHex').runId := by
    intro explicit
    rw [isRun, if_pos explicit]
    exact (if_pos explicit).symm
  unfold checkpointRunId
  rw [found]
  dsimp only
  rw [if_neg nonempty, if_neg (fun mismatch => mismatch.2 (same mismatch.1))]

private theorem parseCheckpoint_payload (uuidHex' : String) (named : uuidHex ≠ "")
    (kept : Kept (create config uuidHex) source) :
    parseCheckpoint runtime (create config uuidHex') (source.payload runtime) =
      .ok
        { runId := source.runId
          epoch := source.epochId
          cursor := source.sampleOffset
          groupIndex := source.sampleGroupIndex
          sampleIndex := source.sampleIndex
          weightVersion := source.lastBatchWeightVersion
          runtimeIncarnation := source.lastRuntimeIncarnation } := by
  have sameConfig : (create config uuidHex').config = source.config :=
    kept.config.symm
  have within : ¬ (create config uuidHex').config.specs.length <
      source.sampleOffset := by
    rw [sameConfig]
    exact Nat.not_lt.mpr kept.placed.cursor
  unfold parseCheckpoint payload
  refine except_bind_eq_ok.mpr ⟨_, rfl, ?_⟩
  refine except_bind_eq_ok.mpr ⟨(), checkExpected_payload runtime sameConfig _, ?_⟩
  refine except_bind_eq_ok.mpr ⟨source.runId, checkpointRunId_ok named kept ?_, ?_⟩
  · simp [HarborDataSource.expected, field]
  refine except_bind_eq_ok.mpr
    ⟨[("weight_version", optionalText source.lastBatchWeightVersion),
      ("runtime_incarnation", optionalText source.lastRuntimeIncarnation)],
      by simp [HarborDataSource.expected, field, asObject], ?_⟩
  refine except_bind_eq_ok.mpr ⟨_, checkpointOptionalString_ok (by simp [field])
    kept.weightVersion, ?_⟩
  refine except_bind_eq_ok.mpr ⟨_, checkpointOptionalString_ok (by simp [field])
    kept.incarnation, ?_⟩
  refine except_bind_eq_ok.mpr
    ⟨[("epoch", .integer source.epochId),
      ("cursor", .integer source.sampleOffset),
      ("group_index", .integer source.sampleGroupIndex),
      ("sample_index", .integer source.sampleIndex)],
      by simp [HarborDataSource.expected, field, asObject], ?_⟩
  refine except_bind_eq_ok.mpr ⟨source.epochId, checkpointInt_ok (by simp [field]), ?_⟩
  refine except_bind_eq_ok.mpr ⟨source.sampleOffset, checkpointInt_ok (by simp [field]), ?_⟩
  refine except_bind_eq_ok.mpr ⟨source.sampleGroupIndex, checkpointInt_ok (by simp [field]), ?_⟩
  refine except_bind_eq_ok.mpr ⟨source.sampleIndex, checkpointInt_ok (by simp [field]), ?_⟩
  exact if_neg within

theorem load_save {uuidHex' : String} {rolloutId : RolloutId} {files files' : Files}
    (named : uuidHex ≠ "") (kept : Kept (create config uuidHex) source)
    (real : rolloutId.label ≠ "-1")
    (saved : save runtime source rolloutId (.ok ()) files = .ok files')
    (found : (create config uuidHex').checkpointPath runtime rolloutId .load =
      source.checkpointPath runtime rolloutId .save) :
    load runtime files' (some rolloutId) (create config uuidHex') =
      (.ok (), source) := by
  obtain ⟨path, isPath, written⟩ := except_bind_eq_ok.mp saved
  cases written
  rw [isPath] at found
  have read : readFile (files.set path (.decoded (source.payload runtime))) path =
      .ok (source.payload runtime) := by
    unfold readFile
    rw [OrderedDict.get?_set_self]
  have parsed := parseCheckpoint_payload runtime uuidHex' named kept
  have same : restore
      { source with
        epoch := source.epochId
        cursor := source.sampleOffset
        groupIndex := source.sampleGroupIndex
        weightVersion := source.lastBatchWeightVersion
        runtimeIncarnation := source.lastRuntimeIncarnation }
      (create config uuidHex') = source := by
    have sameConfig : source.config = config := kept.config
    cases source
    simp only at sameConfig
    subst sameConfig
    rfl
  have returned : Ensures (load runtime (files.set path (.decoded (source.payload runtime)))
      (some rolloutId)) (create config uuidHex')
      (fun _ after => after = source) (fun _ _ => False) := by
    unfold load
    dsimp only
    rw [if_neg real]
    refine ensures_bind (ensures_get (ensures_bind ?_))
    rw [found]
    refine ensures_ofExcept (fun place isPlace => ?_) nofun
    cases isPlace
    rw [read]
    refine ensures_bind (ensures_ofExcept (fun value isValue => ?_) nofun)
    cases isValue
    rw [parsed]
    refine ensures_bind (ensures_ofExcept (fun restored isRestored => ?_) nofun)
    cases isRestored
    exact ensures_modify same
  unfold Ensures at returned
  revert returned
  rcases load runtime (files.set path (.decoded (source.payload runtime))) (some rolloutId)
    (create config uuidHex') with ⟨result, after⟩
  cases result with
  | ok value =>
    rintro rfl
    rfl
  | error failure => exact False.elim

theorem load_error {files : Files} {rolloutId : Option RolloutId} {final : HarborDataSource Job}
    {failure : SourceFailure}
    (raised : load runtime files rolloutId source = (.error failure, final)) : final = source := by
  have untouched : Ensures (load runtime files rolloutId) source (fun _ _ => True)
      (fun _ after => after = source) := by
    cases rolloutId with
    | none => exact rfl
    | some rolloutId =>
      unfold load
      dsimp only
      split
      · exact trivial
      · refine ensures_bind (ensures_get ?_)
        refine ensures_bind (ensures_ofExcept (fun path _ => ?_) (fun _ _ => rfl))
        refine ensures_bind (ensures_ofExcept (fun value _ => ?_) (fun _ _ => rfl))
        refine ensures_bind (ensures_ofExcept (fun restored _ => ?_) (fun _ _ => rfl))
        exact trivial
  unfold Ensures at untouched
  rw [raised] at untouched
  exact untouched

/-- Resuming from a checkpoint of any rollout but `-1` is invisible, every run serves
consecutive groups epoch by epoch, and a load that raises leaves the source as it was. -/
theorem resume_invisible (config : HarborConfig Job) (uuidHex uuidHex' : String)
    (before after : List Request) (rolloutId : RolloutId) (files files' : Files)
    (named : uuidHex ≠ "") (real : rolloutId.label ≠ "-1")
    (saved : save runtime (run runtime (create config uuidHex) before).2 rolloutId
      (.ok ()) files = .ok files')
    (found : (create config uuidHex').checkpointPath runtime rolloutId .load =
      (create config uuidHex').checkpointPath runtime rolloutId .save) :
    (∃ restored,
      load runtime files' (some rolloutId) (create config uuidHex') =
          (.ok (), restored) ∧
        restored = (run runtime (create config uuidHex) before).2 ∧
        (run runtime (create config uuidHex) before).1 ++
            (run runtime restored after).1 =
          (run runtime (create config uuidHex) (before ++ after)).1) ∧
      Consecutive config
        (trained (run runtime (create config uuidHex) (before ++ after)).1) ∧
      ∀ (source final : HarborDataSource Job) (anyFiles : Files) (anyId : Option RolloutId)
        (failure : SourceFailure),
        load runtime anyFiles anyId source = (.error failure, final) → final = source := by
  have created := Kept.of_create config uuidHex
  have kept := (run_kept runtime created before).1
  refine ⟨⟨_, ?_, rfl, ?_⟩, ?_, fun source final anyFiles anyId failure raised =>
    load_error runtime raised⟩
  · apply load_save runtime named kept real saved
    rw [found]
    unfold checkpointPath
    rw [kept.config]
    rfl
  · rw [run_append]
  · obtain ⟨_, count, areGroups, _⟩ := run_kept runtime created (before ++ after)
    exact consecutive_of_groups runtime areGroups

end Sources

namespace TwoEntries

def runtime : Runtime String :=
  { sourceDigest := fun job _ _ _ => job
    registryDigest := fun specs => String.join (specs.map HarborPromptSpec.specId)
    sha256 := id
    locate := fun root names => "/".intercalate (root :: names)
    randbelow := fun _ _ _ => 0 }

def spec (name : String) : HarborPromptSpec :=
  { specId := "harbor-" ++ name
    taskId := "task-" ++ name
    agentId := "agent"
    taskUri := "harbor://task/task-" ++ name
    publicFingerprint := name
    integrationFingerprint := "integration"
    occurrenceIndex := 0
    scope := "train" }

def config : HarborConfig String :=
  { job := "job"
    evalJob := none
    specs := [spec "a", spec "b"]
    evalSpecs := []
    integrationFingerprint := "integration"
    nSamplesPerPrompt := 2
    nSamplesPerEvalPrompt := 2
    rolloutSeed := 42
    rolloutShuffle := true
    runId := none
    harborDataSourceCheckpointDir := none
    save := some "checkpoints"
    load := some "checkpoints"
    resolved := by decide
    evalResolved := by decide
    distinct := by decide
    positive := by decide
    evalPositive := by decide }

def source (uuidHex : String) : HarborDataSource String := create config uuidHex

/-- The cursor rests on the boundary of the first epoch when it is saved. -/
theorem resume_after_epoch : ∃ files' restored,
    save runtime (run runtime (source "0") [.getSamples 2]).2 (.integer 12) (.ok ())
        OrderedDict.empty = .ok files' ∧
      load runtime files' (some (.integer 12)) (source "1") = (.ok (), restored) ∧
      (run runtime (source "0") [.getSamples 2]).1 ++
          (run runtime restored [.getSamples 3]).1 =
        (run runtime (source "0") [.getSamples 2, .getSamples 3]).1 := by
  obtain ⟨⟨restored, loaded, _, outcomes⟩, _⟩ := resume_invisible runtime config "0" "1"
    [.getSamples 2] [.getSamples 3] (.integer 12) OrderedDict.empty _ (by decide) (by decide) rfl
    rfl
  exact ⟨_, restored, rfl, loaded, outcomes⟩

/-- A checkpoint saved as rollout `-1` is written, but loading it restores nothing: the source
starts over. -/
theorem rollout_minus_one : ∃ files',
    save runtime (run runtime (source "0") [.getSamples 1]).2 (.integer (-1)) (.ok ())
        OrderedDict.empty = .ok files' ∧
      load runtime files' (some (.integer (-1))) (source "1") = (.ok (), source "1") ∧
      (run runtime (source "1") [.getSamples 1]).1 ≠
        (run runtime (run runtime (source "0") [.getSamples 1]).2 [.getSamples 1]).1 :=
  ⟨_, rfl, rfl, by decide +kernel⟩

end TwoEntries

end Dressage.Harbor.DataSource

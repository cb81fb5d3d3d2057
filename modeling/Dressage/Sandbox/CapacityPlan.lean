/-
How the cluster manager spreads its servers over the nodes.

Every candidate gets its proportional share rounded down, and the servers that are
still missing go one each to the largest fractions. The fractions add up to the
number of missing servers, so the loop meets none that is zero.
-/

import Mathlib.Data.Rat.Floor
import Mathlib.Algebra.Order.BigOperators.Group.List
import Mathlib.Tactic.Linarith
import Mathlib.Tactic.FieldSimp

namespace Dressage.Sandbox.CapacityPlan

open List

variable {Node : Type}

def totalCapacity (candidates : List (Node × Nat)) : Nat :=
  (candidates.map (·.2)).sum

/-- `raw`, and below `int(raw)` of a share that is not negative. -/
def rawShare (target total capacity : Nat) : ℚ :=
  target * capacity / total

def baseCount (target total capacity : Nat) : Nat :=
  min capacity ⌊rawShare target total capacity⌋₊

structure Draft (Node : Type) where
  planned : List (Node × Nat)
  fractional : List (ℚ × Nat)
  assigned : Nat

def Draft.add (target total : Nat) (draft : Draft Node) (candidate : Node × Nat) : Draft Node :=
  let count := baseCount target total candidate.2
  { planned := draft.planned ++ [(candidate.1, count)]
    fractional := draft.fractional ++
      [(rawShare target total candidate.2 - count, draft.planned.length)]
    assigned := draft.assigned + count }

def descending (left right : ℚ × Nat) : Bool :=
  right.1 < left.1 || right.1 == left.1 && right.2 ≤ left.2

def topUp (candidates : List (Node × Nat)) (target : Nat) :
    List (ℚ × Nat) → List (Node × Nat) → Nat → List (Node × Nat)
  | [], planned, _ => planned
  | (_, index) :: rest, planned, assigned =>
    if target ≤ assigned then planned
    else
      match planned[index]?, candidates[index]? with
      | some (node, count), some (_, capacity) =>
        if count < capacity then
          topUp candidates target rest (planned.set index (node, count + 1)) (assigned + 1)
        else topUp candidates target rest planned assigned
      | _, _ => planned

def plannedCapacities (totalServers : Option Int) (candidates : List (Node × Nat)) :
    List (Node × Nat) :=
  let total := totalCapacity candidates
  if candidates.isEmpty || total ≤ 0 then []
  else
    match totalServers with
    | none => candidates.filter (0 < ·.2)
    | some servers =>
      if total ≤ servers then candidates.filter (0 < ·.2)
      else
        let target := (max 0 servers).toNat
        let draft := candidates.foldl (Draft.add target total)
          { planned := []
            fractional := []
            assigned := 0 }
        (topUp candidates target (draft.fractional.mergeSort descending) draft.planned
          draft.assigned).filter (0 < ·.2)

def share (servers : Int) (candidates : List (Node × Nat)) (capacity : Nat) : ℚ :=
  servers * capacity / totalCapacity candidates

/-- An apportionment: the nodes in order, each with its count, zero included. The
shares are those of the number that `spread` makes of `total_servers`. -/
structure Apportions (spread : Int → Int) (totalServers : Option Int)
    (candidates plan : List (Node × Nat)) : Prop where
  nodes : plan.map (·.1) = candidates.map (·.1)
  fits : ∀ index : Nat, ∀ candidate planned, candidates[index]? = some candidate →
    plan[index]? = some planned → planned.2 ≤ candidate.2
  total : ((totalCapacity plan : Nat) : Int) =
    match totalServers with
    | none => (totalCapacity candidates : Int)
    | some servers => min (max 0 servers) (totalCapacity candidates)
  rounded : ∀ servers, totalServers = some servers → servers < totalCapacity candidates →
    ∀ index : Nat, ∀ candidate planned, candidates[index]? = some candidate →
      plan[index]? = some planned →
        (planned.2 : Int) = ⌊share (spread servers) candidates candidate.2⌋ ∨
          (planned.2 : Int) = ⌈share (spread servers) candidates candidate.2⌉
  byFraction : ∀ servers, totalServers = some servers → servers < totalCapacity candidates →
    ∀ left right : Nat, ∀ lesser greater fewer more,
      candidates[left]? = some lesser → candidates[right]? = some greater →
      plan[left]? = some fewer → plan[right]? = some more →
      Int.fract (share (spread servers) candidates lesser.2) <
          Int.fract (share (spread servers) candidates greater.2) →
        (fewer.2 : Int) - ⌊share (spread servers) candidates lesser.2⌋ ≤
          (more.2 : Int) - ⌊share (spread servers) candidates greater.2⌋

def baseCounts (target total : Nat) (candidates : List (Node × Nat)) : List (Node × Nat) :=
  candidates.map fun candidate => (candidate.1, baseCount target total candidate.2)

def fractions (target total : Nat) (candidates : List (Node × Nat)) (start : Nat) :
    List (ℚ × Nat) :=
  (candidates.zipIdx start).map fun entry =>
    (rawShare target total entry.1.2 - baseCount target total entry.1.2, entry.2)

theorem foldl_add (target total : Nat) (candidates : List (Node × Nat)) (draft : Draft Node) :
    candidates.foldl (Draft.add target total) draft =
      { planned := draft.planned ++ baseCounts target total candidates
        fractional := draft.fractional ++ fractions target total candidates draft.planned.length
        assigned := draft.assigned + totalCapacity (baseCounts target total candidates) } := by
  induction candidates generalizing draft with
  | nil => simp [baseCounts, fractions, totalCapacity]
  | cons candidate rest ih =>
    rw [foldl_cons, ih]
    simp [Draft.add, baseCounts, fractions, totalCapacity, Nat.add_assoc]

variable {candidates planned : List (Node × Nat)}

theorem totalCapacity_set {index : Nat} {node : Node} {count : Nat}
    (found : planned[index]? = some (node, count)) :
    totalCapacity (planned.set index (node, count + 1)) = totalCapacity planned + 1 := by
  induction planned generalizing index with
  | nil => cases found
  | cons first rest ih =>
    cases index with
    | zero =>
      rw [getElem?_cons_zero, Option.some_inj] at found
      subst found
      simp only [totalCapacity, set_cons_zero, map_cons, sum_cons]
      omega
    | succ index =>
      rw [getElem?_cons_succ] at found
      have tail := ih found
      unfold totalCapacity at tail ⊢
      rw [set_cons_succ, map_cons, map_cons, sum_cons, sum_cons, tail]
      omega

theorem topUp_spec (missing : Nat) {order : List (ℚ × Nat)} {assigned : Nat}
    (enough : missing ≤ order.length) (distinct : (order.map (·.2)).Nodup)
    (room : ∀ entry ∈ order.take missing, ∃ node count capacity,
      planned[entry.2]? = some (node, count) ∧
        (candidates[entry.2]?).map (·.2) = some capacity ∧ count < capacity) :
    let plan := topUp candidates (assigned + missing) order planned assigned
    totalCapacity plan = totalCapacity planned + missing ∧
      ∀ index : Nat, plan[index]? = (planned[index]?).map fun entry =>
        if index ∈ (order.take missing).map (·.2) then (entry.1, entry.2 + 1) else entry := by
  induction missing generalizing order planned assigned with
  | zero =>
    have stops : topUp candidates (assigned + 0) order planned assigned = planned := by
      cases order with
      | nil => rfl
      | cons first rest => exact if_pos (Nat.le_refl _)
    rw [Nat.add_zero] at stops
    simp [stops]
  | succ missing ih =>
    cases order with
    | nil => simp at enough
    | cons first rest =>
      obtain ⟨fraction, here⟩ := first
      obtain ⟨node, count, capacity, found, candidate, below⟩ :=
        room (fraction, here) (by simp)
      obtain ⟨⟨other, _⟩, atCandidate, rfl⟩ := Option.map_eq_some_iff.mp candidate
      rw [map_cons, nodup_cons] at distinct
      have stepped : topUp candidates (assigned + (missing + 1)) ((fraction, here) :: rest)
          planned assigned =
          topUp candidates (assigned + 1 + missing) rest
            (planned.set here (node, count + 1)) (assigned + 1) := by
        rw [topUp, if_neg (by omega), found, atCandidate]
        simp only [if_pos below]
        rw [Nat.add_assoc, Nat.add_comm missing 1]
      have apart : ∀ entry ∈ rest.take missing, entry.2 ≠ here := by
        intro entry member same
        exact distinct.1 (mem_map.mpr ⟨entry, mem_of_mem_take member, same⟩)
      obtain ⟨total, counts⟩ := @ih (planned.set here (node, count + 1)) rest (assigned + 1)
        (by simpa using enough) distinct.2 (by
          intro entry member
          rw [getElem?_set_ne (apart entry member).symm]
          exact room entry (by simp [member]))
      simp only [stepped, take_succ_cons, map_cons, mem_cons]
      refine ⟨by rw [total, totalCapacity_set found]; omega, ?_⟩
      intro index
      rw [counts index]
      by_cases same : index = here
      · subst same
        have notLater : index ∉ (rest.take missing).map (·.2) := by
          intro later
          obtain ⟨entry, member, isHere⟩ := mem_map.mp later
          exact apart entry member isHere
        rw [getElem?_set_self (List.getElem_of_getElem? found).1, found, Option.map_some,
          if_neg notLater]
        simp
      · rw [getElem?_set_ne (Ne.symm same)]
        simp [same]

theorem positive_of_sum (missing : Nat) {order : List ℚ} (sorted : order.Pairwise (· ≥ ·))
    (below : ∀ fraction ∈ order, fraction < 1) (sum : (missing : ℚ) < order.sum + 1) :
    missing ≤ order.length ∧ ∀ fraction ∈ order.take missing, 0 < fraction := by
  induction missing generalizing order with
  | zero => simp
  | succ missing ih =>
    cases order with
    | nil =>
      rw [sum_nil, Nat.cast_succ] at sum
      have := Nat.cast_nonneg (α := ℚ) missing
      linarith
    | cons first rest =>
      rw [pairwise_cons] at sorted
      have small := below first (by simp)
      rw [sum_cons, Nat.cast_succ] at sum
      have positive : 0 < first := by
        by_contra negative
        have bounded := sum_le_card_nsmul rest 0 fun fraction member =>
          le_trans (sorted.1 fraction member) (not_lt.mp negative)
        rw [nsmul_zero] at bounded
        have := Nat.cast_nonneg (α := ℚ) missing
        linarith
      obtain ⟨enough, positives⟩ := ih sorted.2
        (fun fraction member => below fraction (mem_cons_of_mem _ member)) (by linarith)
      refine ⟨Nat.succ_le_succ enough, ?_⟩
      intro fraction member
      rw [take_succ_cons, mem_cons] at member
      rcases member with rfl | later
      · exact positive
      · exact positives fraction later

section Shares

variable {target total capacity : Nat}

theorem rawShare_le (less : target ≤ total) : rawShare target total capacity ≤ capacity := by
  unfold rawShare
  apply div_le_of_le_mul₀ (Nat.cast_nonneg total) (Nat.cast_nonneg capacity)
  rw [mul_comm]
  exact mul_le_mul_of_nonneg_left (Nat.cast_le.mpr less) (Nat.cast_nonneg capacity)

theorem rawShare_nonneg : 0 ≤ rawShare target total capacity := by
  unfold rawShare
  positivity

section

variable (less : target ≤ total)
include less

theorem baseCount_eq :
    (baseCount target total capacity : Int) = ⌊rawShare target total capacity⌋ := by
  have fits : ⌊rawShare target total capacity⌋₊ ≤ capacity :=
    Nat.floor_le_of_le (rawShare_le less)
  rw [baseCount, Nat.min_eq_right fits, Int.natCast_floor_eq_floor rawShare_nonneg]

theorem fraction_eq :
    rawShare target total capacity - baseCount target total capacity =
      Int.fract (rawShare target total capacity) := by
  rw [Int.fract, ← baseCount_eq less, Int.cast_natCast]

theorem baseCount_lt (positive : 0 < Int.fract (rawShare target total capacity)) :
    baseCount target total capacity < capacity := by
  rw [← fraction_eq less] at positive
  have fits := @rawShare_le target total capacity less
  have below : (baseCount target total capacity : ℚ) < capacity := by linarith
  exact Nat.cast_lt.mp below

theorem mem_fractions {entry : ℚ × Nat} :
    entry ∈ fractions target total candidates 0 ↔
      ∃ candidate, candidates[entry.2]? = some candidate ∧
        entry.1 = Int.fract (rawShare target total candidate.2) := by
  unfold fractions
  rw [mem_map]
  constructor
  · rintro ⟨⟨candidate, index⟩, source, rfl⟩
    exact ⟨candidate, mem_zipIdx_iff_getElem?.mp source, fraction_eq less⟩
  · rintro ⟨candidate, found, fraction⟩
    refine ⟨(candidate, entry.2), mem_zipIdx_iff_getElem?.mpr found, ?_⟩
    rw [fraction_eq less, ← fraction]

end

theorem fractions_indexes (start : Nat) :
    (fractions target total candidates start).map (·.2) = List.range' start candidates.length := by
  unfold fractions
  rw [map_map]
  exact zipIdx_map_snd start candidates

theorem sum_fractions (start : Nat) :
    ((fractions target total candidates start).map (·.1)).sum +
        totalCapacity (baseCounts target total candidates) =
      rawShare target total (totalCapacity candidates) := by
  induction candidates generalizing start with
  | nil => simp [fractions, baseCounts, totalCapacity, rawShare]
  | cons candidate rest ih =>
    have tail := ih (start + 1)
    simp only [fractions, baseCounts, totalCapacity, rawShare] at tail ⊢
    simp only [zipIdx_cons, map_cons, sum_cons]
    push_cast at tail ⊢
    rw [mul_add, add_div, ← tail]
    ring

theorem ceil_eq_floor_add_one {value : ℚ} (positive : 0 < Int.fract value) :
    ⌈value⌉ = ⌊value⌋ + 1 := by
  rw [Int.ceil_eq_iff]
  have above := Int.lt_floor_add_one value
  unfold Int.fract at positive
  push_cast
  constructor <;> linarith

end Shares

theorem descending_order (items : List (ℚ × Nat)) :
    (items.mergeSort descending).Pairwise fun left right => right.1 ≤ left.1 := by
  have sorted := @pairwise_mergeSort _ descending
    (by
      intro first second third
      simp only [descending, Bool.or_eq_true, Bool.and_eq_true, decide_eq_true_eq, beq_iff_eq]
      grind)
    (by
      intro first second
      simp only [descending, Bool.or_eq_true, Bool.and_eq_true, decide_eq_true_eq, beq_iff_eq]
      grind)
    items
  refine sorted.imp ?_
  intro left right ordered
  simp only [descending, Bool.or_eq_true, Bool.and_eq_true, decide_eq_true_eq, beq_iff_eq] at ordered
  grind

def bases (target : Nat) (candidates : List (Node × Nat)) : List (Node × Nat) :=
  baseCounts target (totalCapacity candidates) candidates

def remainder (target : Nat) (candidates : List (Node × Nat)) (candidate : Node × Nat) : ℚ :=
  Int.fract (rawShare target (totalCapacity candidates) candidate.2)

def topUpOrder (target : Nat) (candidates : List (Node × Nat)) : List (ℚ × Nat) :=
  (fractions target (totalCapacity candidates) candidates 0).mergeSort descending

def spreadPlan (target : Nat) (candidates : List (Node × Nat)) : List (Node × Nat) :=
  topUp candidates target (topUpOrder target candidates) (bases target candidates)
    (totalCapacity (bases target candidates))

section Spread

variable {target : Nat} (less : target < totalCapacity candidates)

include less

theorem mem_topUpOrder (entry : ℚ × Nat) :
    entry ∈ topUpOrder target candidates ↔
      ∃ candidate, candidates[entry.2]? = some candidate ∧
        entry.1 = remainder target candidates candidate :=
  (mergeSort_perm _ _).mem_iff.trans (mem_fractions (Nat.le_of_lt less))

theorem remainders_sum :
    ((topUpOrder target candidates).map (·.1)).sum + totalCapacity (bases target candidates) =
      target := by
  have nonzero : ((totalCapacity candidates : Nat) : ℚ) ≠ 0 :=
    Nat.cast_ne_zero.mpr (by omega)
  have perm := mergeSort_perm (fractions target (totalCapacity candidates) candidates 0) descending
  rw [topUpOrder, (perm.map (·.1)).sum_eq, bases, sum_fractions, rawShare, mul_div_assoc,
    div_self nonzero, mul_one]

theorem exists_missing : ∃ missing,
    target = totalCapacity (bases target candidates) + missing ∧
      missing ≤ (topUpOrder target candidates).length ∧
      ∀ entry ∈ (topUpOrder target candidates).take missing, 0 < entry.1 := by
  have inRange : ∀ fraction ∈ (topUpOrder target candidates).map (·.1),
      0 ≤ fraction ∧ fraction < 1 := by
    intro fraction member
    obtain ⟨entry, source, rfl⟩ := mem_map.mp member
    obtain ⟨candidate, _, isFraction⟩ := (mem_topUpOrder less entry).mp source
    rw [isFraction]
    exact ⟨Int.fract_nonneg _, Int.fract_lt_one _⟩
  have sum := remainders_sum less
  have nonneg := sum_nonneg fun fraction member => (inRange fraction member).1
  have below : totalCapacity (bases target candidates) ≤ target := by
    rw [← Nat.cast_le (α := ℚ)]
    linarith
  obtain ⟨missing, isTarget⟩ := Nat.exists_eq_add_of_le below
  have cast : (target : ℚ) = totalCapacity (bases target candidates) + missing := by
    exact_mod_cast isTarget
  obtain ⟨enough, positives⟩ := positive_of_sum missing
    (pairwise_map.mpr (descending_order _))
    (fun fraction member => (inRange fraction member).2) (by unfold topUpOrder at sum; linarith)
  rw [length_map] at enough
  refine ⟨missing, isTarget, enough, ?_⟩
  intro entry member
  apply positives
  rw [← map_take]
  exact mem_map_of_mem member

/-- All of the target is spread; a node gets one more than its base only for a fraction,
and the larger fractions come first. -/
theorem spreadPlan_spec : ∃ extra : Nat → Nat,
    totalCapacity (spreadPlan target candidates) = target ∧
    (∀ index : Nat, (spreadPlan target candidates)[index]? = (candidates[index]?).map
      fun candidate =>
        (candidate.1, baseCount target (totalCapacity candidates) candidate.2 + extra index)) ∧
    (∀ index : Nat, ∀ candidate, candidates[index]? = some candidate →
      extra index = 0 ∨ extra index = 1 ∧ 0 < remainder target candidates candidate) ∧
    ∀ left right : Nat, ∀ lesser greater,
      candidates[left]? = some lesser → candidates[right]? = some greater →
        remainder target candidates lesser < remainder target candidates greater →
          extra left ≤ extra right := by
  obtain ⟨missing, isTarget, enough, positives⟩ := exists_missing less
  have atBase : ∀ index : Nat, (bases target candidates)[index]? = (candidates[index]?).map
      fun candidate => (candidate.1, baseCount target (totalCapacity candidates) candidate.2) :=
    fun index => getElem?_map
  have distinct : ((topUpOrder target candidates).map (·.2)).Nodup := by
    have perm := mergeSort_perm (fractions target (totalCapacity candidates) candidates 0)
      descending
    rw [topUpOrder, (perm.map (·.2)).nodup_iff, fractions_indexes]
    exact nodup_range'
  have taken : ∀ index : Nat, ∀ candidate, candidates[index]? = some candidate →
      index ∈ ((topUpOrder target candidates).take missing).map (·.2) →
        (remainder target candidates candidate, index) ∈
          (topUpOrder target candidates).take missing := by
    intro index candidate found isTaken
    obtain ⟨entry, member, rfl⟩ := mem_map.mp isTaken
    obtain ⟨other, same, isFraction⟩ :=
      (mem_topUpOrder less entry).mp (mem_of_mem_take member)
    rw [found, Option.some_inj] at same
    rw [same, ← isFraction]
    exact member
  have room : ∀ entry ∈ (topUpOrder target candidates).take missing, ∃ node count capacity,
      (bases target candidates)[entry.2]? = some (node, count) ∧
        (candidates[entry.2]?).map (·.2) = some capacity ∧ count < capacity := by
    intro entry member
    obtain ⟨candidate, found, isFraction⟩ :=
      (mem_topUpOrder less entry).mp (mem_of_mem_take member)
    refine ⟨candidate.1, _, candidate.2, by rw [atBase, found]; rfl, by rw [found]; rfl, ?_⟩
    have positive := positives entry member
    rw [isFraction] at positive
    exact baseCount_lt (Nat.le_of_lt less) positive
  have spec := @topUp_spec _ candidates _ missing _ (totalCapacity (bases target candidates))
    enough distinct room
  rw [← isTarget] at spec
  obtain ⟨total, counts⟩ := spec
  refine ⟨fun index =>
    if index ∈ ((topUpOrder target candidates).take missing).map (·.2) then 1 else 0,
    total, ?_, ?_, ?_⟩
  · intro index
    refine (counts index).trans ?_
    rw [atBase, Option.map_map]
    congr 1
    funext candidate
    simp only [Function.comp_apply]
    split <;> rfl
  · intro index candidate found
    by_cases isTaken : index ∈ ((topUpOrder target candidates).take missing).map (·.2)
    · exact .inr ⟨if_pos isTaken, positives _ (taken index candidate found isTaken)⟩
    · exact .inl (if_neg isTaken)
  · intro left right lesser greater foundLeft foundRight smaller
    by_cases rightTaken : right ∈ ((topUpOrder target candidates).take missing).map (·.2)
    · simp only [if_pos rightTaken]
      split <;> omega
    · have leftOut : left ∉ ((topUpOrder target candidates).take missing).map (·.2) := by
        -- Else the entry of `right` comes behind that of `left`, whose fraction is smaller.
        intro leftTaken
        have sorted : (topUpOrder target candidates).Pairwise fun left right => right.1 ≤ left.1 :=
          descending_order _
        have present := (mem_topUpOrder less (remainder target candidates greater, right)).mpr
          ⟨greater, foundRight, rfl⟩
        rw [← take_append_drop missing (topUpOrder target candidates)] at present sorted
        rcases mem_append.mp present with early | late
        · exact rightTaken (mem_map.mpr ⟨_, early, rfl⟩)
        · have ordered := (pairwise_append.mp sorted).2.2 _
            (taken left lesser foundLeft leftTaken) _ late
          exact absurd smaller (not_lt.mpr ordered)
      simp only [if_neg leftOut]
      omega

end Spread

theorem share_toNat (servers : Int) (capacity : Nat) :
    share (max 0 servers) candidates capacity =
      rawShare (max 0 servers).toNat (totalCapacity candidates) capacity := by
  unfold share rawShare
  congr 2
  exact_mod_cast (Int.toNat_of_nonneg (le_max_left 0 servers)).symm

theorem whole_apportions {totalServers : Option Int} (spread : Int → Int)
    (all : ∀ servers, totalServers = some servers →
      (totalCapacity candidates : Int) ≤ servers ∨ totalCapacity candidates = 0) :
    Apportions spread totalServers candidates candidates := by
  have none : totalCapacity candidates = 0 → ∀ index : Nat, ∀ candidate : Node × Nat,
      candidates[index]? = some candidate → candidate.2 = 0 := by
    intro zero index candidate found
    exact sum_eq_zero_iff.mp zero _ (mem_map_of_mem (mem_of_getElem? found))
  constructor
  · rfl
  · intro index candidate planned found same
    rw [found, Option.some_inj] at same
    rw [same]
  · cases totalServers with
    | none => rfl
    | some servers =>
      have := all servers rfl
      simp only
      omega
  · intro servers isServers less index candidate planned found same
    have zero := (all servers isServers).resolve_left (by omega)
    rw [none zero index planned same, share, zero]
    simp
  · intro servers isServers less left right lesser greater fewer more _ _ _ _ smaller
    have zero := (all servers isServers).resolve_left (by omega)
    simp [share, zero] at smaller

theorem spreadPlan_apportions {servers : Int} (less : servers < totalCapacity candidates)
    (positive : 0 < totalCapacity candidates) :
    Apportions (max 0) (some servers) candidates (spreadPlan (max 0 servers).toNat candidates) := by
  have lessNat : (max 0 servers).toNat < totalCapacity candidates := by omega
  obtain ⟨extra, total, counts, bounded, ordered⟩ := spreadPlan_spec lessNat
  have atIndex : ∀ index : Nat, ∀ candidate planned, candidates[index]? = some candidate →
      (spreadPlan (max 0 servers).toNat candidates)[index]? = some planned →
        planned.2 = baseCount (max 0 servers).toNat (totalCapacity candidates) candidate.2 +
          extra index := by
    intro index candidate planned found same
    rw [counts index, found, Option.map_some, Option.some_inj] at same
    rw [← same]
  have floored := fun capacity => @baseCount_eq _ _ capacity (Nat.le_of_lt lessNat)
  constructor
  · apply ext_getElem?
    intro index
    rw [getElem?_map, getElem?_map, counts index, Option.map_map]
    rfl
  · intro index candidate planned found same
    rw [atIndex index candidate planned found same]
    rcases bounded index candidate found with none | ⟨one, fraction⟩
    · rw [none]
      exact Nat.min_le_left _ _
    · rw [one]
      exact baseCount_lt (Nat.le_of_lt lessNat) fraction
  · rw [total]
    simp only
    omega
  · rintro _ ⟨⟩ _ index candidate planned found same
    rw [atIndex index candidate planned found same, share_toNat, Nat.cast_add, floored]
    rcases bounded index candidate found with none | ⟨one, fraction⟩
    · exact .inl (by rw [none]; simp)
    · exact .inr (by rw [one, ceil_eq_floor_add_one fraction]; simp)
  · rintro _ ⟨⟩ _ left right lesser greater fewer more atLeft atRight isFewer isMore smaller
    rw [share_toNat, share_toNat] at smaller
    rw [atIndex left lesser fewer atLeft isFewer, atIndex right greater more atRight isMore,
      share_toNat, share_toNat, Nat.cast_add, Nat.cast_add, floored, floored]
    have := ordered left right lesser greater atLeft atRight smaller
    omega

/-- Planning is an exact apportionment, by the largest fractions, of `max(0, total_servers)`. -/
theorem planned_capacities_apportion (totalServers : Option Int) (candidates : List (Node × Nat)) :
    ∃ plan, plannedCapacities totalServers candidates = plan.filter (0 < ·.2) ∧
      Apportions (max 0) totalServers candidates plan := by
  unfold plannedCapacities
  simp only
  split
  next empty =>
    have zero : totalCapacity candidates = 0 := by
      rcases (Bool.or_eq_true _ _).mp empty with none | zero
      · rw [List.isEmpty_iff.mp none]
        rfl
      · exact Nat.le_zero.mp (of_decide_eq_true zero)
    refine ⟨candidates, ?_, whole_apportions _ fun _ _ => .inr zero⟩
    rw [eq_comm, filter_eq_nil_iff]
    intro candidate member
    have none := sum_eq_zero_iff.mp zero candidate.2 (mem_map_of_mem member)
    simp [none]
  next filled =>
    cases totalServers with
    | none => exact ⟨candidates, rfl, whole_apportions _ (by simp)⟩
    | some servers =>
      by_cases less : servers < totalCapacity candidates
      · refine ⟨_, ?_, spreadPlan_apportions less (by simp_all; omega)⟩
        simp only
        rw [if_neg (by omega), foldl_add]
        simp only [nil_append, Nat.zero_add]
        rfl
      · refine ⟨candidates, if_pos (by omega), whole_apportions _ ?_⟩
        rintro _ ⟨⟩
        omega

theorem negative_servers_not_spread :
    ¬ ∃ plan, plannedCapacities (some (-4)) [("a", 1), ("b", 1)] = plan.filter (0 < ·.2) ∧
      Apportions id (some (-4)) [("a", 1), ("b", 1)] plan := by
  rintro ⟨plan, _, apportions⟩
  have first : ∃ count, plan[0]? = some ("a", count) := by
    have names := congrArg (·[0]?) apportions.nodes
    simp only [getElem?_map] at names
    obtain ⟨⟨_, count⟩, found, rfl⟩ := Option.map_eq_some_iff.mp names
    exact ⟨count, found⟩
  obtain ⟨count, found⟩ := first
  have rounded := apportions.rounded (-4) rfl (by decide) 0 ("a", 1) ("a", count) rfl found
  norm_num [share, totalCapacity] at rounded
  omega

end Dressage.Sandbox.CapacityPlan
